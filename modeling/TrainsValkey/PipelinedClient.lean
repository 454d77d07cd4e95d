import TrainsValkey.Library.Mealy
import TrainsValkey.TextRoundTrip
import Mathlib.Algebra.Order.Field.Rat
import Mathlib.Data.List.Nodup
import Mathlib.Data.List.Perm.Subperm

/-
The pipelined chaos client: it sends its writes in batches, records a write as
soon as its reply is `+OK`, and goes on to the next batch when every reply of
this one is read.

What the connections, the replies and the clock do in each pass of the loop is
an input.  A batch that fails is sent again as a whole, over a new connection,
and what was recorded of it stays recorded.
-/

set_option autoImplicit false

namespace TrainsValkey.PipelinedClient

open TrainsValkey.Library

/-! ### The loop -/

inductive PyReply where
  | text (line : String)
  | integer (value : Int)
  | none
  | bytes (data : Bytes)
  | list (items : List PyReply)

/-- `r == "OK"`; bytes are not a string. -/
def PyReply.isOk : PyReply → Bool
  | .text line => line == "OK"
  | _ => false

inductive Read where
  | reply (r : PyReply)
  /-- A socket error, a timeout, the end of the stream, or an error reply. -/
  | fails
  /-- An exception that the loop does not catch: a number or a text that cannot be read. -/
  | crashes

def Read.isReply : Read → Bool
  | .reply _ => true
  | _ => false

def Read.isOk : Read → Bool
  | .reply r => r.isOk
  | _ => false

structure Args where
  count : Int
  pipeline : Int
  pre : String
  abandonSecs : ℚ

/-- `[k, v, t_ack, primary]`. -/
structure Acked where
  key : String
  value : String
  tAck : ℚ
  primary : String

/-- What one pass of the loop meets. -/
structure Round where
  /-- The address of the primary when the client has to connect and can. -/
  connect : Option String
  /-- The clock when a failover window opens, and when its length is checked. -/
  opened : ℚ
  checked : ℚ
  sends : Bool
  reads : Nat → Read
  tAck : Nat → ℚ

inductive Status where
  | running
  | abandoned
  | crashed
deriving DecidableEq, Repr

/-- `sock` holds the label of the primary while there is a connection. -/
structure State where
  i : Int
  sock : Option String
  failoverWindowStart : Option ℚ
  acked : List Acked
  status : Status

def State.init : State := ⟨0, none, none, [], .running⟩

inductive Ending where
  | complete
  | failed
  | crashed
deriving DecidableEq, Repr

namespace Args

variable (args : Args)

def key (index : Int) : String := args.pre ++ toString index

def value (index : Int) : String := "v" ++ toString index

def batchN (i : Int) : Int := min args.pipeline (args.count - i)

def entry (i : Int) (primary : String) (round : Round) (j : Nat) : Acked :=
  ⟨args.key (i + j), value (i + j), round.tAck j, primary⟩

/-- The replies of a batch from the `j`-th on: the writes that are recorded, and
how the reading ends. -/
def readReplies (i : Int) (primary : String) (round : Round) : Nat → Nat → List Acked × Ending
  | _, 0 => ([], .complete)
  | j, left + 1 =>
      match round.reads j with
      | .fails => ([], .failed)
      | .crashes => ([], .crashed)
      | .reply r =>
          let rest := readReplies i primary round (j + 1) left
          (if r.isOk then args.entry i primary round j :: rest.1 else rest.1, rest.2)

/-- A batch over a connection.  `range` of a negative number is empty. -/
def batch (state : State) (primary : String) (round : Round) : State :=
  if round.sends then
    let n := args.batchN state.i
    let replies := args.readReplies state.i primary round 0 n.toNat
    let state := { state with acked := state.acked ++ replies.1 }
    match replies.2 with
    | .complete => { state with i := state.i + n }
    | .failed => { state with sock := none }
    | .crashed => { state with status := .crashed }
  else { state with sock := none }

/-- A pass with no connection: a failed attempt opens the failover window. -/
def reconnect (state : State) (round : Round) : State :=
  match round.connect with
  | some primary =>
      args.batch { state with sock := some primary, failoverWindowStart := none } primary round
  | none =>
      let start := state.failoverWindowStart.getD round.opened
      { state with
        failoverWindowStart := some start
        status := if round.checked - start > args.abandonSecs then .abandoned else .running }

/-- The loop ends when `i` has reached the count, or by a break or an exception. -/
def continues (state : State) : Prop := state.status = .running ∧ state.i < args.count

instance (state : State) : Decidable (args.continues state) :=
  inferInstanceAs (Decidable (state.status = .running ∧ state.i < args.count))

def pass (state : State) (round : Round) : State :=
  if args.continues state then
    match state.sock with
    | some primary => args.batch state primary round
    | none => args.reconnect state round
  else state

def client : Machine State Round Unit where
  step := fun state round => (args.pass state round, [])

def after (rounds : List Round) : State := (args.client.run .init rounds).1

end Args

/-- What is reported at the end: the acknowledged total and the throughput,
before its rounding. -/
structure Report where
  acked : Nat
  throughput : ℚ

def State.report (state : State) (elapsed : ℚ) : Report where
  acked := state.acked.length
  throughput := if 0 < elapsed then state.acked.length / elapsed else 0

/-! ### Answers -/

namespace Args

variable (args : Args)

def connection (state : State) (round : Round) : Option String := state.sock <|> round.connect

/-- A pass sends the SET at offset `j` of its batch, and every reply before the
`j`-th is read. -/
structure Reads (state : State) (round : Round) (j : Nat) : Prop where
  continues : args.continues state
  connected : (connection state round).isSome
  sends : round.sends = true
  inBatch : (j : Int) < args.batchN state.i
  before : ∀ k < j, (round.reads k).isReply = true

structure AnswersOk (state : State) (round : Round) (j : Nat) : Prop extends
    args.Reads state round j where
  ok : (round.reads j).isOk = true

/-- The batch fails, by an error reply or on its connection, after one of its
replies was OK. -/
def CutAfterOk (state : State) (round : Round) : Prop :=
  ∃ j k, j < k ∧ args.AnswersOk state round j ∧ args.Reads state round k ∧
    round.reads k = .fails

structure AllOk (round : Round) : Prop where
  connects : round.connect.isSome = true
  sends : round.sends = true
  ok : ∀ j, (round.reads j).isOk = true

/-- Each key is recorded once at most; so the totals are not inflated.  A
negative count is a count of no writes. -/
structure CountsOnce (state : State) : Prop where
  nodup : (state.acked.map Acked.key).Nodup
  total : ∀ elapsed, (state.report elapsed).acked ≤ args.count.toNat
  throughput : ∀ elapsed, 0 < elapsed →
    (state.report elapsed).throughput ≤ args.count.toNat / elapsed

def OnlyAnswered (rounds : List Round) : Prop :=
  ∀ entry ∈ (args.after rounds).acked, ∃ earlier round later j,
    rounds = earlier ++ round :: later ∧ args.AnswersOk (args.after earlier) round j ∧
      entry.key = args.key ((args.after earlier).i + j) ∧
      entry.value = value ((args.after earlier).i + j)

/-- It counts once, and would still after a retry that is answered in full. -/
def StaysOnce (state : State) : Prop :=
  args.CountsOnce state ∧ ∀ retry, AllOk retry → args.CountsOnce (args.pass state retry)

/-- What the client is to do on a run: it records answered writes only, and each
once. -/
structure RecordsOnce (rounds : List Round) : Prop where
  answered : args.OnlyAnswered rounds
  once : args.CountsOnce (args.after rounds)

end Args

/-! ### The replies of a batch -/

theorem mem_takeWhile_range' (p : Nat → Bool) {first count k : Nat} :
    k ∈ (List.range' first count).takeWhile p ↔
      (first ≤ k ∧ k < first + count) ∧ ∀ l, first ≤ l → l ≤ k → p l = true := by
  induction count generalizing first with
  | zero =>
      refine iff_of_false List.not_mem_nil ?_
      intro both
      obtain ⟨⟨least, most⟩, _⟩ := both
      omega
  | succ count ih =>
      rw [List.range'_succ]
      by_cases holds : p first = true
      · rw [List.takeWhile_cons_of_pos holds, List.mem_cons, ih]
        constructor
        · intro either
          rcases either with rfl | ⟨⟨least, most⟩, all⟩
          · refine ⟨by omega, fun l low high => ?_⟩
            rwa [Nat.le_antisymm high low]
          · refine ⟨by omega, fun l low high => ?_⟩
            rcases Nat.eq_or_lt_of_le low with rfl | more
            · exact holds
            · exact all l more high
        · intro both
          obtain ⟨⟨least, most⟩, all⟩ := both
          rcases Nat.eq_or_lt_of_le least with rfl | more
          · exact .inl rfl
          · exact .inr ⟨by omega, fun l low high => all l (by omega) high⟩
      · rw [List.takeWhile_cons_of_neg holds]
        refine iff_of_false List.not_mem_nil ?_
        intro both
        obtain ⟨⟨least, _⟩, all⟩ := both
        exact holds (all first (Nat.le_refl first) least)

theorem Read.isReply_of_isOk {read : Read} (ok : read.isOk = true) : read.isReply = true := by
  cases read with
  | reply r => rfl
  | fails => cases ok
  | crashes => cases ok

/-- The offsets answered OK, of so many from the first on: those whose reply is
OK before the reading ends. -/
def okOffsets (round : Round) (first count : Nat) : List Nat :=
  ((List.range' first count).takeWhile (fun j => (round.reads j).isReply)).filter
    (fun j => (round.reads j).isOk)

theorem mem_okOffsets {round : Round} {first count j : Nat} : j ∈ okOffsets round first count ↔
    (first ≤ j ∧ j < first + count) ∧
      (∀ k, first ≤ k → k < j → (round.reads k).isReply = true) ∧
        (round.reads j).isOk = true := by
  rw [okOffsets, List.mem_filter, mem_takeWhile_range']
  constructor
  · intro both
    obtain ⟨⟨inside, all⟩, ok⟩ := both
    exact ⟨inside, fun k low less => all k low less.le, ok⟩
  · intro both
    obtain ⟨inside, before, ok⟩ := both
    refine ⟨⟨inside, fun k low high => ?_⟩, ok⟩
    rcases Nat.eq_or_lt_of_le high with rfl | less
    · exact Read.isReply_of_isOk ok
    · exact before k low less

theorem okOffsets_increasing (round : Round) (first count : Nat) :
    (okOffsets round first count).Pairwise (fun j k => j < k) := by
  have sorted : (List.range' first count).Pairwise (fun j k => j < k) := List.pairwise_lt_range' 1
  exact sorted.sublist (List.filter_sublist.trans (List.takeWhile_sublist _))

namespace Args

variable {args : Args} {i : Int} {primary : String} {round : Round}

theorem readReplies_acked (first count : Nat) :
    (args.readReplies i primary round first count).1 =
      (okOffsets round first count).map (args.entry i primary round) := by
  induction count generalizing first with
  | zero => rfl
  | succ count ih =>
      rw [readReplies, okOffsets, List.range'_succ]
      cases read : round.reads first with
      | fails =>
          rw [List.takeWhile_cons_of_neg (by rw [read]; decide)]
          rfl
      | crashes =>
          rw [List.takeWhile_cons_of_neg (by rw [read]; decide)]
          rfl
      | reply r =>
          rw [List.takeWhile_cons_of_pos (by rw [read]; rfl)]
          have rest := ih (first + 1)
          rw [okOffsets] at rest
          by_cases ok : r.isOk = true
          · rw [List.filter_cons_of_pos (by rw [read]; exact ok), List.map_cons, ← rest]
            exact if_pos ok
          · rw [List.filter_cons_of_neg (by rw [read]; exact ok), ← rest]
            exact if_neg ok

theorem readReplies_failed {first count : Nat}
    (failed : (args.readReplies i primary round first count).2 = .failed) :
    ∃ k, (first ≤ k ∧ k < first + count) ∧
      (∀ l, first ≤ l → l < k → (round.reads l).isReply = true) ∧ round.reads k = .fails := by
  induction count generalizing first with
  | zero => cases failed
  | succ count ih =>
      rw [readReplies] at failed
      cases read : round.reads first with
      | fails => exact ⟨first, by omega, fun l low high => by omega, read⟩
      | crashes =>
          rw [read] at failed
          cases failed
      | reply r =>
          rw [read] at failed
          obtain ⟨k, inside, before, fails⟩ := ih failed
          refine ⟨k, by omega, fun l low high => ?_, fails⟩
          rcases Nat.eq_or_lt_of_le low with rfl | more
          · rw [read]
            rfl
          · exact before l more high

theorem readReplies_fails {first count k : Nat} (inside : first ≤ k ∧ k < first + count)
    (before : ∀ l, first ≤ l → l < k → (round.reads l).isReply = true)
    (fails : round.reads k = .fails) :
    (args.readReplies i primary round first count).2 = .failed := by
  induction count generalizing first with
  | zero => omega
  | succ count ih =>
      rw [readReplies]
      rcases Nat.eq_or_lt_of_le inside.1 with rfl | more
      · simp only [fails]
      · have reply := before first (Nat.le_refl first) more
        cases read : round.reads first with
        | reply r => exact ih (by omega) (fun l low high => before l (by omega) high)
        | fails => rfl
        | crashes =>
            rw [read] at reply
            cases reply

/-! ### What one pass does -/

variable {state : State}

structure Sends (args : Args) (state : State) (round : Round) : Prop where
  continues : args.continues state
  connected : (connection state round).isSome = true
  sends : round.sends = true

instance (state : State) (round : Round) : Decidable (args.Sends state round) :=
  decidable_of_iff
    (args.continues state ∧ (connection state round).isSome = true ∧ round.sends = true)
    ⟨fun all => ⟨all.1, all.2.1, all.2.2⟩, fun all => ⟨all.continues, all.connected, all.sends⟩⟩

def answered (args : Args) (state : State) (round : Round) : List Nat :=
  if args.Sends state round then okOffsets round 0 (args.batchN state.i).toNat else []

theorem mem_answered {j : Nat} : j ∈ args.answered state round ↔ args.AnswersOk state round j := by
  unfold answered
  split
  · next sends =>
      rw [mem_okOffsets]
      constructor
      · intro both
        obtain ⟨inside, before, ok⟩ := both
        exact ⟨⟨sends.continues, sends.connected, sends.sends, by omega,
          fun k less => before k (Nat.zero_le k) less⟩, ok⟩
      · intro both
        obtain ⟨⟨_, _, _, inBatch, before⟩, ok⟩ := both
        exact ⟨by omega, fun k _ less => before k less, ok⟩
  · next idle =>
      refine iff_of_false List.not_mem_nil ?_
      intro both
      obtain ⟨⟨continues, connected, sends, _, _⟩, _⟩ := both
      exact idle ⟨continues, connected, sends⟩

theorem answered_increasing : (args.answered state round).Pairwise (fun j k => j < k) := by
  unfold answered
  split
  · exact okOffsets_increasing round 0 _
  · exact List.Pairwise.nil

theorem pass_eq_batch (sends : args.Sends state round) : ∃ primary start,
    args.pass state round = args.batch ⟨state.i, some primary, start, state.acked, .running⟩
      primary round := by
  obtain ⟨⟨running, less⟩, connected, _⟩ := sends
  rw [pass, if_pos ⟨running, less⟩]
  cases sock : state.sock with
  | some primary =>
      have whole : state =
          ⟨state.i, some primary, state.failoverWindowStart, state.acked, .running⟩ := by
        rw [← sock, ← running]
      exact ⟨primary, state.failoverWindowStart,
        congrArg (fun state => args.batch state primary round) whole⟩
  | none =>
      rw [connection, sock] at connected
      obtain ⟨primary, connects⟩ := Option.isSome_iff_exists.mp connected
      refine ⟨primary, none, ?_⟩
      have connects : round.connect = some primary := connects
      simp only [reconnect, connects, running]

theorem pass_stopped (stopped : ¬args.continues state) : args.pass state round = state :=
  if_neg stopped

theorem pass_idle (idle : ¬args.Sends state round) :
    (args.pass state round).acked = state.acked ∧ (args.pass state round).i = state.i := by
  unfold pass
  split
  · next continues =>
      cases sock : state.sock with
      | some primary =>
          have stuck : ¬round.sends = true := by
            intro sends
            refine idle ⟨continues, ?_, sends⟩
            rw [connection, sock]
            rfl
          simp only [batch, if_neg stuck, and_self]
      | none =>
          cases connects : round.connect with
          | none => simp only [reconnect, connects, and_self]
          | some primary =>
              have stuck : ¬round.sends = true := by
                intro sends
                refine idle ⟨continues, ?_, sends⟩
                rw [connection, sock, connects]
                rfl
              simp only [reconnect, connects, batch, if_neg stuck, and_self]
  · exact ⟨rfl, rfl⟩

theorem pass_acked (args : Args) (state : State) (round : Round) : ∃ primary, (args.pass state round).acked =
    state.acked ++ (args.answered state round).map (args.entry state.i primary round) := by
  by_cases sends : args.Sends state round
  · obtain ⟨primary, start, same⟩ := pass_eq_batch sends
    refine ⟨primary, ?_⟩
    rw [same, batch, if_pos sends.sends, answered, if_pos sends, ← readReplies_acked]
    simp only
    split <;> rfl
  · refine ⟨"", ?_⟩
    rw [(pass_idle sends).1, answered, if_neg sends, List.map_nil, List.append_nil]

/-- What a pass leaves the loop with: the same batch, and nothing recorded of it
in this pass; the next batch; the same batch, cut behind an OK; or an end. -/
theorem pass_cases (args : Args) (state : State) (round : Round) :
    ((args.pass state round).i = state.i ∧ args.answered state round = []) ∨
    (args.Sends state round ∧ (args.pass state round).i = state.i + args.batchN state.i) ∨
    ((args.pass state round).i = state.i ∧ args.CutAfterOk state round) ∨
    ((args.pass state round).i = state.i ∧ ¬args.continues (args.pass state round)) := by
  by_cases sends : args.Sends state round
  · obtain ⟨primary, start, same⟩ := pass_eq_batch sends
    rw [same, batch, if_pos sends.sends]
    simp only
    cases ending : (args.readReplies state.i primary round 0 (args.batchN state.i).toNat).2 with
    | complete => exact .inr (.inl ⟨sends, rfl⟩)
    | crashed =>
        refine .inr (.inr (.inr ⟨rfl, ?_⟩))
        intro both
        obtain ⟨running, _⟩ := both
        cases running
    | failed =>
        cases offsets : args.answered state round with
        | nil => exact .inl ⟨rfl, rfl⟩
        | cons j rest =>
            have first : j ∈ args.answered state round := offsets ▸ List.mem_cons_self
            have answers := mem_answered.mp first
            obtain ⟨k, inside, before, fails⟩ := readReplies_failed ending
            refine .inr (.inr (.inl ⟨rfl, j, k, ?_, answers, ?_, fails⟩))
            · rcases Nat.lt_or_ge j k with less | more
              · exact less
              · exfalso
                have reply : (round.reads k).isReply = true := by
                  rcases Nat.eq_or_lt_of_le more with rfl | less
                  · exact Read.isReply_of_isOk answers.ok
                  · exact answers.before k less
                rw [fails] at reply
                cases reply
            · exact ⟨sends.continues, sends.connected, sends.sends, by omega,
                fun l less => before l (Nat.zero_le l) less⟩
  · refine .inl ⟨(pass_idle sends).2, ?_⟩
    rw [answered, if_neg sends]

theorem pass_of_cut (cut : args.CutAfterOk state round) :
    (args.pass state round).i = state.i ∧ (args.pass state round).sock = none ∧
      args.continues (args.pass state round) := by
  obtain ⟨j, k, _, _, reads, fails⟩ := cut
  have sends : args.Sends state round := ⟨reads.continues, reads.connected, reads.sends⟩
  obtain ⟨primary, start, same⟩ := pass_eq_batch sends
  have inBatch := reads.inBatch
  have failed : (args.readReplies state.i primary round 0 (args.batchN state.i).toNat).2 =
      .failed :=
    readReplies_fails ⟨Nat.zero_le k, by omega⟩ (fun l _ less => reads.before l less) fails
  have step : args.pass state round = ⟨state.i, none, start, (args.pass state round).acked,
      .running⟩ := by
    rw [same, batch, if_pos sends.sends]
    simp only [failed]
  rw [step]
  exact ⟨rfl, rfl, rfl, sends.continues.2⟩

/-! ### Runs -/

theorem after_snoc (earlier : List Round) (round : Round) :
    args.after (earlier ++ [round]) = args.pass (args.after earlier) round :=
  args.client.run_snoc .init earlier round

/-- Whatever the connections and the replies are, only answered writes are
recorded. -/
theorem onlyAnswered (args : Args) (rounds : List Round) : args.OnlyAnswered rounds := by
  induction rounds using List.reverseRecOn with
  | nil =>
      intro entry member
      cases member
  | append_singleton earlier round ih =>
      intro entry member
      obtain ⟨primary, acked⟩ := pass_acked args (args.after earlier) round
      rw [after_snoc, acked] at member
      rcases List.mem_append.mp member with before | now
      · obtain ⟨front, past, rest, j, rfl, facts⟩ := ih entry before
        exact ⟨front, past, rest ++ [round], j, by rw [List.append_assoc, List.cons_append], facts⟩
      · obtain ⟨j, offset, rfl⟩ := List.mem_map.mp now
        exact ⟨earlier, round, [], j, rfl, mem_answered.mp offset, rfl, rfl⟩

/-- The recorded keys are those of increasing indices, and while the loop goes on
they lie below its place. -/
structure Ordered (args : Args) (state : State) (indices : List Nat) : Prop where
  keys : state.acked.map Acked.key = indices.map (fun index : Nat => args.key index)
  increasing : indices.Pairwise (fun a b => a < b)
  inCount : ∀ index ∈ indices, (index : Int) < args.count
  behind : args.continues state → ∀ index ∈ indices, (index : Int) < state.i
  place : 0 < args.pipeline → 0 ≤ state.i
  pipelined : ∀ index ∈ indices, 0 < args.pipeline

theorem init_ordered (args : Args) : args.Ordered .init [] where
  keys := rfl
  increasing := List.Pairwise.nil
  inCount := fun _ impossible => by cases impossible
  behind := fun _ _ impossible => by cases impossible
  place := fun _ => Int.le_refl 0
  pipelined := fun _ impossible => by cases impossible

theorem pass_ordered {indices : List Nat} (ordered : args.Ordered state indices)
    (uncut : ¬args.CutAfterOk state round) :
    ∃ indices', args.Ordered (args.pass state round) indices' := by
  obtain ⟨primary, acked⟩ := pass_acked args state round
  have offset {j : Nat} (member : j ∈ args.answered state round) :
      args.continues state ∧ 0 < args.pipeline ∧ 0 ≤ state.i ∧
        (j : Int) < args.batchN state.i := by
    have answers := mem_answered.mp member
    have inBatch := answers.inBatch
    have deep : args.batchN state.i ≤ args.pipeline := Int.min_le_left _ _
    have pipelined : 0 < args.pipeline := by omega
    exact ⟨answers.continues, pipelined, ordered.place pipelined, inBatch⟩
  have advances (pipelined : 0 < args.pipeline) (continues : args.continues state) :
      0 ≤ args.batchN state.i := by
    have more := continues.2
    exact Int.le_min.mpr ⟨pipelined.le, by omega⟩
  refine ⟨indices ++ (args.answered state round).map (fun j => state.i.toNat + j), ?_⟩
  constructor
  case keys =>
    rw [acked, List.map_append, List.map_append, ordered.keys, List.map_map, List.map_map]
    refine congrArg (List.append _) (List.map_congr_left ?_)
    intro j member
    have place := (offset member).2.2.1
    change args.key (state.i + j) = args.key ((state.i.toNat + j : Nat) : Int)
    rw [Int.natCast_add, Int.toNat_of_nonneg place]
  case increasing =>
    refine List.pairwise_append.mpr ⟨ordered.increasing, ?_, ?_⟩
    · apply List.pairwise_map.mpr
      exact answered_increasing.imp (fun less => Nat.add_lt_add_left less _)
    · intro index member index' member'
      obtain ⟨j, inside, rfl⟩ := List.mem_map.mp member'
      obtain ⟨continues, _, place, _⟩ := offset inside
      have before := ordered.behind continues index member
      omega
  case inCount =>
    intro index member
    rcases List.mem_append.mp member with before | now
    · exact ordered.inCount index before
    · obtain ⟨j, inside, rfl⟩ := List.mem_map.mp now
      obtain ⟨_, _, place, inBatch⟩ := offset inside
      have fits : args.batchN state.i ≤ args.count - state.i := Int.min_le_right _ _
      omega
  case behind =>
    intro continues' index member
    have continues : args.continues state := by
      by_contra stopped
      rw [pass_stopped stopped] at continues'
      exact stopped continues'
    rcases pass_cases args state round with
      ⟨stays, nothing⟩ | ⟨_, moves⟩ | ⟨_, cut⟩ | ⟨_, stopped⟩
    · rw [nothing, List.map_nil, List.append_nil] at member
      rw [stays]
      exact ordered.behind continues index member
    · rw [moves]
      rcases List.mem_append.mp member with before | now
      · have behind := ordered.behind continues index before
        have ahead := advances (ordered.pipelined index before) continues
        omega
      · obtain ⟨j, inside, rfl⟩ := List.mem_map.mp now
        obtain ⟨_, _, place, inBatch⟩ := offset inside
        omega
    · exact absurd cut uncut
    · exact absurd continues' stopped
  case place =>
    intro pipelined
    have place := ordered.place pipelined
    rcases pass_cases args state round with
      ⟨stays, _⟩ | ⟨sends, moves⟩ | ⟨stays, _⟩ | ⟨stays, _⟩
    · rwa [stays]
    · rw [moves]
      exact Int.add_nonneg place (advances pipelined sends.continues)
    · rwa [stays]
    · rwa [stays]
  case pipelined =>
    intro index member
    rcases List.mem_append.mp member with before | now
    · exact ordered.pipelined index before
    · obtain ⟨j, inside, rfl⟩ := List.mem_map.mp now
      exact (offset inside).2.1

theorem key_injective {index index' : Nat} (same : args.key index = args.key index') :
    index = index' := by
  have digits : (index.repr).toList = (index'.repr).toList := by
    have whole := congrArg String.toList same
    rw [key, key, String.toList_append, String.toList_append] at whole
    exact List.append_cancel_left whole
  have value := congrArg digitsValue digits
  rw [digitsValue_repr, digitsValue_repr] at value
  exact Option.some.inj value

/-- In order, each key is recorded once. -/
theorem Ordered.countsOnce {indices : List Nat} (ordered : args.Ordered state indices) :
    args.CountsOnce state := by
  have distinct : indices.Nodup := by
    apply ordered.increasing.imp
    intro index index' less
    exact Nat.ne_of_lt less
  have total : state.acked.length ≤ args.count.toNat := by
    have lengths := congrArg List.length ordered.keys
    rw [List.length_map, List.length_map] at lengths
    have inside : indices ⊆ List.range args.count.toNat := by
      intro index member
      have less := ordered.inCount index member
      exact List.mem_range.mpr (by omega)
    have bound := (distinct.subperm inside).length_le
    rwa [List.length_range, ← lengths] at bound
  constructor
  case nodup =>
    rw [ordered.keys]
    exact List.Nodup.map (fun _ _ same => key_injective same) distinct
  case total => exact fun _ => total
  case throughput =>
    intro elapsed positive
    simp only [State.report, if_pos positive]
    have counted : (state.acked.length : ℚ) ≤ args.count.toNat := Nat.cast_le.mpr total
    exact div_le_div_of_nonneg_right counted positive.le

theorem retry_repeats {retry : Round} (cut : args.CutAfterOk state round) (ok : AllOk retry) :
    ¬((args.pass (args.pass state round) retry).acked.map Acked.key).Nodup := by
  obtain ⟨same, unconnected, continues⟩ := pass_of_cut cut
  obtain ⟨j, _, _, answers, _, _⟩ := cut
  have answers' : args.AnswersOk (args.pass state round) retry j := by
    refine ⟨⟨continues, ?_, ok.sends, same ▸ answers.inBatch, ?_⟩, ok.ok j⟩
    · rw [connection, unconnected]
      exact ok.connects
    · exact fun k _ => Read.isReply_of_isOk (ok.ok k)
  obtain ⟨primary, first⟩ := pass_acked args state round
  obtain ⟨primary', second⟩ := pass_acked args (args.pass state round) retry
  intro distinct
  rw [second, List.map_append] at distinct
  have recorded : args.key (state.i + j) ∈ (args.pass state round).acked.map Acked.key := by
    rw [first, List.map_append, List.map_map]
    exact List.mem_append_right _ (List.mem_map.mpr ⟨j, mem_answered.mpr answers, rfl⟩)
  apply List.disjoint_of_nodup_append distinct recorded
  rw [List.map_map, same]
  exact List.mem_map.mpr ⟨j, mem_answered.mpr answers', rfl⟩

theorem AllOk.uncut {retry : Round} (ok : AllOk retry) : ¬args.CutAfterOk state retry := by
  intro cut
  obtain ⟨_, k, _, _, _, fails⟩ := cut
  have read := ok.ok k
  rw [fails] at read
  cases read

def answersAll (primary : String) : Round where
  connect := some primary
  opened := 0
  checked := 0
  sends := true
  reads := fun _ => .reply (.text "OK")
  tAck := fun _ => 0

theorem answersAll_allOk (primary : String) : AllOk (answersAll primary) :=
  ⟨rfl, rfl, fun _ => rfl⟩

/-- The client records answered writes only and each once, in every state of a
run and in those that a retry answered in full leads to from there, exactly when
no batch of the run fails after one of its replies was OK. -/
theorem recordsOnce_iff (args : Args) (rounds : List Round) :
    (∀ front, front <+: rounds → args.RecordsOnce front ∧
      ∀ retry, AllOk retry → args.RecordsOnce (front ++ [retry])) ↔
      ∀ front round, front ++ [round] <+: rounds → ¬args.CutAfterOk (args.after front) round := by
  have kept : ∀ (state : State) (round : Round), (∃ indices, args.Ordered state indices) →
      ¬args.CutAfterOk state round →
        ∃ indices, args.Ordered (args.client.step state round).1 indices := by
    intro state round before uncut
    obtain ⟨indices, ordered⟩ := before
    exact pass_ordered ordered uncut
  have safe : ∀ state : State, (∃ indices, args.Ordered state indices) → args.StaysOnce state := by
    intro state before
    obtain ⟨indices, ordered⟩ := before
    refine ⟨ordered.countsOnce, ?_⟩
    intro retry ok
    obtain ⟨indices', ordered'⟩ := pass_ordered ordered ok.uncut
    exact ordered'.countsOnce
  have needed : ∀ (state : State) (round : Round),
      args.StaysOnce (args.client.step state round).1 → ¬args.CutAfterOk state round := by
    intro state round counts cut
    have ok := answersAll_allOk ""
    exact retry_repeats cut ok (counts.2 _ ok).nodup
  refine Iff.trans ?_
    (args.client.run_safe_iff kept safe needed ⟨[], init_ordered args⟩ rounds)
  constructor
  · intro once front earlier
    obtain ⟨records, retries⟩ := once front earlier
    refine ⟨records.once, ?_⟩
    intro retry ok
    have counts := (retries retry ok).once
    rwa [after_snoc] at counts
  · intro counts front earlier
    refine ⟨⟨onlyAnswered args front, (counts front earlier).1⟩, ?_⟩
    intro retry ok
    refine ⟨onlyAnswered args _, ?_⟩
    rw [after_snoc]
    exact (counts front earlier).2 retry ok

def dropsBehindOk : Round :=
  { answersAll "10.0.0.1:6379" with
    reads := fun j => if j = 0 then .reply (.text "OK") else .fails }

theorem dropped_batch_counted_twice :
    ((Args.mk 2 2 "chaos:k" 60).after [dropsBehindOk, answersAll "10.0.0.1:6379"]).acked.map
        Acked.key = ["chaos:k0", "chaos:k0", "chaos:k1"] ∧
      ¬(Args.mk 2 2 "chaos:k" 60).RecordsOnce [dropsBehindOk, answersAll "10.0.0.1:6379"] := by
  have keys : ((Args.mk 2 2 "chaos:k" 60).after
      [dropsBehindOk, answersAll "10.0.0.1:6379"]).acked.map Acked.key =
        ["chaos:k0", "chaos:k0", "chaos:k1"] := by
    rfl
  refine ⟨keys, ?_⟩
  intro records
  have total := records.once.total 1
  have three := congrArg List.length keys
  rw [List.length_map] at three
  change (_ : List Acked).length ≤ 2 at total
  rw [three] at total
  exact absurd total (by decide)

end Args

end TrainsValkey.PipelinedClient
