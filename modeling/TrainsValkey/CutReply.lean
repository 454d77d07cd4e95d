import Mathlib.Data.List.TakeWhile
import TrainsValkey.ReplyReader

/-
A reply that is cut off.

The reader waits for the rest of a reply as long as the stream is open.  On a
stream that has ended it takes what is left for the last line.
-/

set_option autoImplicit false

namespace TrainsValkey

/-! ### Reading on -/

/-- Whatever the first reader finishes, the second finishes in the same way,
with anything behind it. -/
def Extends (first second : Bytes → ReadOutcome) : Prop :=
  ∀ input result rest, first input = .finished result rest →
    ∀ more, second (input ++ more) = .finished result (rest ++ more)

theorem readUntil_extend {input line rest : Bytes}
    (found : readUntil false input = some (line, rest)) (ended : Bool) (more : Bytes) :
    readUntil ended (input ++ more) = some (line, rest ++ more) := by
  unfold readUntil at found ⊢
  cases position : input.findIdx? (fun c => c = 10) with
  | none =>
      rw [position] at found
      cases found
  | some nl =>
      rw [position] at found
      cases found
      obtain ⟨within, _, _⟩ := List.findIdx?_eq_some_iff_getElem.mp position
      rw [List.findIdx?_append, position, Option.some_or]
      simp only
      rw [List.take_append_of_le_length within, List.drop_append_of_le_length within]

theorem readPayload_extend (ended : Bool) (len : Nat) :
    Extends (readPayload false len) (readPayload ended len) := by
  intro input result rest done more
  unfold readPayload at done ⊢
  split at done
  · cases done
  · rename_i enough
    cases done
    have longer : ¬(input ++ more).length < len + 2 := by
      rw [List.length_append]
      omega
    rw [if_neg longer, List.take_append_of_le_length (by omega),
      List.drop_append_of_le_length (by omega)]

theorem readItems_extend {first second : Bytes → ReadOutcome} (extend : Extends first second)
    (n : Nat) (items : List Reply) : Extends (readItems first n items) (readItems second n items) := by
  intro input result rest done more
  induction n generalizing items input with
  | zero =>
      cases done
      rfl
  | succ n ih =>
      rw [readItems] at done ⊢
      cases read : first input with
      | blocked =>
          rw [read] at done
          cases done
      | finished item after =>
          rw [read] at done
          rw [extend input item after read more]
          cases item with
          | error e =>
              cases done
              rfl
          | ok item => exact ih _ _ done

/-- A line is a reply or an error by itself, or says how long a payload or how
many items follow. -/
inductive LineKind (marker : UInt8) (body : Bytes) : Prop
  | whole (result : Except ReadError Reply)
      (reads : ∀ ended read rest, readMarked ended read marker body rest = .finished result rest)
  | payload (len : Nat)
      (reads : ∀ ended read rest, readMarked ended read marker body rest =
        readPayload ended len rest)
  | items (len : Nat)
      (reads : ∀ ended read rest, readMarked ended read marker body rest = readItems read len [] rest)

theorem lineKind (marker : UInt8) (body : Bytes) : LineKind marker body := by
  by_cases simple : marker = 43
  · exact .whole (.ok (.simple (fromUtf8Lossy body))) (fun _ _ _ => by simp [readMarked, simple])
  by_cases error : marker = 45
  · exact .whole (.ok (.error (fromUtf8Lossy body))) (fun _ _ _ => by simp [readMarked, error])
  by_cases integer : marker = 58
  · cases parsed : parseReplyInt body with
    | none => exact .whole (.error .badInteger) (fun _ _ _ => by simp [readMarked, integer, parsed])
    | some value =>
        exact .whole (.ok (.integer value)) (fun _ _ _ => by simp [readMarked, integer, parsed])
  by_cases bulk : marker = 36
  · cases parsed : parseReplyInt body with
    | none => exact .whole (.error .badInteger) (fun _ _ _ => by simp [readMarked, bulk, parsed])
    | some len =>
        by_cases negative : len < 0
        · exact .whole (.ok .nil) (fun _ _ _ => by simp [readMarked, bulk, parsed, negative])
        · exact .payload len.toNat (fun _ _ _ => by simp [readMarked, bulk, parsed, negative])
  by_cases array : marker = 42
  · cases parsed : parseReplyInt body with
    | none => exact .whole (.error .badInteger) (fun _ _ _ => by simp [readMarked, array, parsed])
    | some len =>
        by_cases negative : len < 0
        · exact .whole (.ok .nilArray) (fun _ _ _ => by simp [readMarked, array, parsed, negative])
        · exact .items len.toNat (fun _ _ _ => by simp [readMarked, array, parsed, negative])
  · refine .whole (.error (.unknownMarker marker)) (fun _ _ _ => ?_)
    simp [readMarked, simple, error, integer, bulk, array]

theorem readMarked_extend {first second : Bytes → ReadOutcome} (extend : Extends first second)
    (ended : Bool) (marker : UInt8) (body : Bytes) :
    Extends (readMarked false first marker body) (readMarked ended second marker body) := by
  intro input result rest done more
  cases lineKind marker body with
  | whole kept reads =>
      rw [reads] at done ⊢
      cases done
      rfl
  | payload len reads =>
      rw [reads] at done ⊢
      exact readPayload_extend ended len _ _ _ done more
  | items len reads =>
      rw [reads] at done ⊢
      exact readItems_extend extend len [] _ _ _ done more

theorem readReplyFor_extend (ended : Bool) {depth deeper : Nat} (deep : depth ≤ deeper) :
    Extends (readReplyFor false depth) (readReplyFor ended deeper) := by
  induction depth generalizing deeper with
  | zero =>
      intro input result rest done
      cases done
  | succ depth ih =>
      intro input result rest done more
      obtain ⟨deeper, rfl⟩ : ∃ less, deeper = less + 1 := ⟨deeper - 1, by omega⟩
      rw [readReplyFor] at done ⊢
      cases found : readUntil false input with
      | none =>
          rw [found] at done
          cases done
      | some taken =>
          obtain ⟨line, after⟩ := taken
          rw [readUntil_extend found ended more]
          rw [found] at done
          cases line with
          | nil =>
              cases done
              rfl
          | cons first tail =>
              simp only at done ⊢
              cases popped : popLineEnd (first :: tail) with
              | nil =>
                  rw [popped] at done
                  cases done
                  rfl
              | cons marker body =>
                  rw [popped] at done
                  exact readMarked_extend (ih (by omega)) ended marker body _ _ _ done more

/-! ### Reading up to the end -/

theorem readUntil_ended {input : Bytes} (open_ : readUntil false input = none) :
    readUntil true input = some (input, []) := by
  unfold readUntil at open_ ⊢
  cases position : input.findIdx? (fun c => c = 10) with
  | none => rfl
  | some nl =>
      rw [position] at open_
      cases open_

section Items

variable {first second : Bytes → ReadOutcome} {items : List Reply} {rest : Bytes}
  {result : Except ReadError Reply}

theorem readItems_nothing
    (nothing : ∀ result rest, second [] = .finished result rest → rest = []) {n : Nat}
    (done : readItems second n items [] = .finished result rest) : rest = [] := by
  induction n generalizing items with
  | zero =>
      cases done
      rfl
  | succ n ih =>
      rw [readItems] at done
      cases read : second [] with
      | blocked =>
          rw [read] at done
          cases done
      | finished item after =>
          have spent := nothing item after read
          rw [read, spent] at done
          cases item with
          | error e =>
              cases done
              rfl
          | ok item => exact ih done

theorem readItems_ended (extend : Extends first second)
    (nothing : ∀ result rest, second [] = .finished result rest → rest = [])
    (ended : ∀ input result rest, first input = .blocked → second input = .finished result rest →
      rest = []) {n : Nat} {input : Bytes} (waits : readItems first n items input = .blocked)
    (done : readItems second n items input = .finished result rest) : rest = [] := by
  induction n generalizing items input with
  | zero => cases waits
  | succ n ih =>
      rw [readItems] at waits done
      cases read : first input with
      | blocked =>
          cases readOn : second input with
          | blocked =>
              rw [readOn] at done
              cases done
          | finished item after =>
              have spent := ended input item after read readOn
              rw [readOn, spent] at done
              cases item with
              | error e =>
                  cases done
                  rfl
              | ok item => exact readItems_nothing nothing done
      | finished item after =>
          have readOn := extend input item after read []
          rw [List.append_nil, List.append_nil] at readOn
          rw [read] at waits
          rw [readOn] at done
          cases item with
          | error e => cases waits
          | ok item => exact ih waits done

end Items

theorem readReplyFor_nothing {depth : Nat} {result : Except ReadError Reply} {rest : Bytes}
    (done : readReplyFor true depth [] = .finished result rest) : rest = [] := by
  cases depth with
  | zero => cases done
  | succ depth =>
      cases done
      rfl

theorem readReplyFor_ended {depth : Nat} {input rest : Bytes} {result : Except ReadError Reply}
    (waits : readReplyFor false depth input = .blocked)
    (done : readReplyFor true depth input = .finished result rest) : rest = [] := by
  induction depth generalizing input result rest with
  | zero => cases done
  | succ depth ih =>
      have nothing : ∀ result rest, readReplyFor true depth [] = .finished result rest →
          rest = [] := fun _ _ => readReplyFor_nothing
      rw [readReplyFor] at waits done
      cases found : readUntil false input with
      | none =>
          rw [readUntil_ended found] at done
          cases input with
          | nil =>
              cases done
              rfl
          | cons first tail =>
              simp only at done
              cases popped : popLineEnd (first :: tail) with
              | nil =>
                  rw [popped] at done
                  cases done
                  rfl
              | cons marker body =>
                  rw [popped] at done
                  simp only at done
                  cases lineKind marker body with
                  | whole kept reads =>
                      rw [reads] at done
                      cases done
                      rfl
                  | payload len reads =>
                      rw [reads] at done
                      cases done
                      rfl
                  | items len reads =>
                      rw [reads] at done
                      exact readItems_nothing nothing done
      | some taken =>
          obtain ⟨line, after⟩ := taken
          have foundToo := readUntil_extend found true []
          rw [List.append_nil, List.append_nil] at foundToo
          rw [found] at waits
          rw [foundToo] at done
          cases line with
          | nil => cases waits
          | cons first tail =>
              simp only at waits done
              cases popped : popLineEnd (first :: tail) with
              | nil =>
                  rw [popped] at waits
                  cases waits
              | cons marker body =>
                  rw [popped] at waits done
                  simp only at waits done
                  cases lineKind marker body with
                  | whole kept reads =>
                      rw [reads] at waits
                      cases waits
                  | payload len reads =>
                      rw [reads] at waits done
                      unfold readPayload at waits done
                      split at waits
                      · rename_i short
                        rw [if_pos short] at done
                        cases done
                        rfl
                      · cases waits
                  | items len reads =>
                      rw [reads] at waits done
                      exact readItems_ended (readReplyFor_extend true (Nat.le_refl depth)) nothing
                        (fun _ _ _ => ih) waits done

/-! ### Simple replies -/

theorem readItems_ok {read : Bytes → ReadOutcome} {n : Nat} {items : List Reply}
    {input rest : Bytes} {reply : Reply}
    (done : readItems read n items input = .finished (.ok reply) rest) :
    ∃ replies, reply = .array replies := by
  induction n generalizing items input with
  | zero =>
      cases done
      exact ⟨items, rfl⟩
  | succ n ih =>
      rw [readItems] at done
      split at done
      · cases done
      · cases done
      · exact ih done

theorem readMarked_simple {ended : Bool} {read : Bytes → ReadOutcome} {marker : UInt8}
    {body input rest : Bytes} {text : String}
    (done : readMarked ended read marker body input = .finished (.ok (.simple text)) rest) :
    marker = 43 ∧ fromUtf8Lossy body = text := by
  by_cases simple : marker = 43
  · rw [readMarked, if_pos simple] at done
    cases done
    exact ⟨simple, rfl⟩
  · exfalso
    rw [readMarked, if_neg simple] at done
    split at done
    · cases done
    split at done
    · split at done
      · cases done
      · cases done
    split at done
    · split at done
      · cases done
      · split at done
        · cases done
        · unfold readPayload at done
          split at done
          · split at done
            · cases done
            · cases done
          · cases done
    split at done
    · split at done
      · cases done
      · split at done
        · cases done
        · obtain ⟨replies, impossible⟩ := readItems_ok done
          cases impossible
    · cases done

theorem popLineEnd_cons {first : UInt8} (feed : first ≠ 10) (ret : first ≠ 13) (tail : Bytes) :
    ∃ body, popLineEnd (first :: tail) = first :: body := by
  cases popped : popLineEnd (first :: tail) with
  | nil =>
      rw [popLineEnd, List.reverse_eq_nil_iff, List.dropWhile_eq_nil_iff] at popped
      have dropped := popped first (List.mem_reverse.mpr List.mem_cons_self)
      simp [feed, ret] at dropped
  | cons marker body =>
      have front := popLineEnd_front (first :: tail)
      rw [popped] at front
      exact ⟨body, by rw [(List.cons_prefix_cons.mp front).1]⟩

def ReadsSimple (bytes : Bytes) (text : String) : Prop :=
  ∃ body, popLineEnd bytes = 43 :: body ∧ fromUtf8Lossy body = text

theorem readReply_ended_simple_iff {input : Bytes} (waits : readReply false input = .blocked)
    (text : String) :
    (∃ rest, readReply true input = .finished (.ok (.simple text)) rest) ↔
      ReadsSimple input text := by
  rw [readReply, readReplyFor] at waits
  -- a whole line that reads as a simple reply would not have waited
  have whole : ∀ line after, readUntil false input = some (line, after) →
      ∀ body, popLineEnd line ≠ 43 :: body := by
    intro line after found body popped
    have some_ : line ≠ [] := by
      rintro rfl
      cases popped
    obtain ⟨first, tail, rfl⟩ := List.exists_cons_of_ne_nil some_
    rw [found] at waits
    simp only [popped] at waits
    cases waits
  constructor
  · rintro ⟨rest, done⟩
    rw [readReply, readReplyFor] at done
    obtain ⟨line, after, foundEnd, last⟩ : ∃ line after, readUntil true input = some (line, after) ∧
        (readUntil false input = some (line, after) ∨ line = input) := by
      cases found : readUntil false input with
      | none => exact ⟨input, [], readUntil_ended found, .inr rfl⟩
      | some taken =>
          have foundToo := readUntil_extend found true []
          rw [List.append_nil, List.append_nil] at foundToo
          exact ⟨taken.1, taken.2, foundToo, .inl rfl⟩
    rw [foundEnd] at done
    cases line with
    | nil => cases done
    | cons first tail =>
        simp only at done
        cases popped : popLineEnd (first :: tail) with
        | nil =>
            rw [popped] at done
            cases done
        | cons marker body =>
            rw [popped] at done
            obtain ⟨rfl, text_⟩ := readMarked_simple done
            rcases last with found | rfl
            · exact absurd popped (whole _ _ found body)
            · exact ⟨body, popped, text_⟩
  · rintro ⟨body, popped, text_⟩
    have front := popLineEnd_front input
    rw [popped] at front
    obtain ⟨tail, rfl⟩ : ∃ tail, input = 43 :: tail := by
      obtain ⟨more, same⟩ := front
      exact ⟨body ++ more, same.symm⟩
    cases found : readUntil false (43 :: tail) with
    | some taken =>
        obtain ⟨line, after⟩ := taken
        obtain ⟨others, rfl⟩ := readUntil_head found
        have marked : (43 : UInt8) ≠ 10 ∧ (43 : UInt8) ≠ 13 := by decide
        obtain ⟨lineBody, linePopped⟩ := popLineEnd_cons marked.1 marked.2 others
        exact absurd linePopped (whole _ _ found lineBody)
    | none =>
        refine ⟨[], ?_⟩
        rw [readReply, readReplyFor, readUntil_ended found]
        simp only [popped]
        rw [readMarked, if_pos rfl, text_]

/-- A part of a well-formed reply makes the reader wait. -/
theorem readReply_cut {reply : WireReply} (wellFormed : reply.WellFormed) {part : Bytes}
    (front : part <+: reply.bytes) (cut : part ≠ reply.bytes) :
    readReply false part = .blocked := by
  cases read : readReply false part with
  | blocked => rfl
  | finished result rest =>
      obtain ⟨more, whole⟩ := front
      have deep : part.length + 1 ≤ reply.bytes.length + 1 := by
        rw [← whole, List.length_append]
        omega
      have extended := readReplyFor_extend false deep _ _ _ read more
      have known := readReply_bytes wellFormed false []
      rw [List.append_nil, readReply, ← whole] at known
      rw [← whole] at extended
      rw [known] at extended
      injection extended with _ nothing
      rw [(List.append_eq_nil_iff.mp nothing.symm).2, List.append_nil] at whole
      exact absurd whole cut

end TrainsValkey
