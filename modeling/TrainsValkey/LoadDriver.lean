import Mathlib
import TrainsValkey.ChaosVerify
import TrainsValkey.CutReply

/-
The load of the chaos run: one `SET` after the other over one connection, each
read with a timeout, and a fresh connection after a read that failed.

What the proxy makes of a write is an input of the model: its reply, the wait
before each byte of it that comes, and whether the connection ends there.  The
driver itself takes no time.
-/

set_option autoImplicit false

namespace TrainsValkey

/-! ### Errors -/

/-- `io::ErrorKind`, as far as it matters here. -/
inductive ErrorKind where
  | wouldBlock
  | timedOut
  | unexpectedEof
  | connectionReset
  | brokenPipe
  | connectionAborted
  | invalidData
  | invalidInput
  | other

def ReadError.kind : ReadError → ErrorKind
  | .eof => .unexpectedEof
  | .shortPayload => .unexpectedEof
  | .emptyLine => .invalidData
  | .badInteger => .invalidData
  | .unknownMarker _ => .invalidData

def isAbandon : ErrorKind → Bool
  | .wouldBlock => true
  | .timedOut => true
  | .unexpectedEof => true
  | .connectionReset => true
  | .brokenPipe => true
  | .connectionAborted => true
  | _ => false

/-! ### One connection -/

inductive Ending where
  | closed
  | reset

/-- What becomes of one write.  The proxy answers the requests of a connection
in order, with one reply each. -/
structure Fate where
  writeError : Option ErrorKind
  reply : WireReply
  /-- The wait before each byte that comes of what the proxy owes the
  connection. -/
  gaps : List Nat
  ending : Option Ending
  connectError : Option ErrorKind
  wellFormed : reply.WellFormed

structure LoadConn where
  owed : Bytes
  ending : Option Ending

/-- A read waits this long for a byte, or forever. -/
def soon (abandon : Option Nat) (gap : Nat) : Bool :=
  match abandon with
  | none => true
  | some d => gap < d

/-- What a call can read before a wait is too long, what of it comes later, and
whether the call finds the end of the connection behind it. -/
structure Incoming where
  input : Bytes
  later : Bytes
  ending : Option Ending

/-- What a call of `set_and_read` comes to. -/
inductive SetResult where
  | replied (ok : Bool) (conn : LoadConn)
  | failed (kind : ErrorKind)
  | waits

namespace LoadConn

def connect (abandon : Option Nat) (connectError : Option ErrorKind) : Except ErrorKind LoadConn :=
  match connectError with
  | some kind => .error kind
  | none => if abandon = some 0 then .error .invalidInput else .ok { owed := [], ending := none }

def incoming (conn : LoadConn) (abandon : Option Nat) (fate : Fate) : Incoming :=
  match conn.ending with
  | some how => { input := conn.owed, later := [], ending := some how }
  | none =>
      let due := conn.owed ++ fate.reply.bytes
      let inTime := (fate.gaps.takeWhile (soon abandon)).length
      { input := due.take inTime
        later := due.drop inTime
        ending := if inTime < fate.gaps.length then none else fate.ending }

def setAndRead (conn : LoadConn) (abandon : Option Nat) (fate : Fate) : SetResult :=
  match fate.writeError with
  | some kind => .failed kind
  | none =>
      let incoming := conn.incoming abandon fate
      let ended := match incoming.ending with
        | some .closed => true
        | _ => false
      match readReply ended incoming.input with
      | .finished (.ok reply) rest =>
          .replied (reply == .simple "OK")
            { owed := rest ++ (if incoming.ending.isSome then [] else incoming.later)
              ending := incoming.ending }
      | .finished (.error e) _ => .failed e.kind
      | .blocked =>
          match incoming.ending with
          | some .closed => .failed .unexpectedEof
          | some .reset => .failed .connectionReset
          | none => if abandon.isSome then .failed .wouldBlock else .waits

end LoadConn

/-! ### The load -/

/-- A write as it was tried: the connection it was sent over and what became of
it. -/
structure Attempt where
  index : Nat
  conn : LoadConn
  fate : Fate

inductive LoadOutcome where
  | ok (acked : AckedWrites)
  | failed (kind : ErrorKind)
  | waits

structure Load where
  attempts : List Attempt
  outcome : LoadOutcome

namespace Load

def after (attempt : Attempt) (load : Load) : Load :=
  { load with attempts := attempt :: load.attempts }

def entry (pre : String) (i : Nat) : Bytes × Bytes := (asBytes s!"{pre}{i}", asBytes s!"v{i}")

section Run

variable (pre : String) (abandon : Option Nat) (fates : Nat → Fate)

def runFrom : List Nat → LoadConn → AckedWrites → Load
  | [], _, acked => { attempts := [], outcome := .ok acked }
  | i :: rest, conn, acked =>
      let attempt : Attempt := { index := i, conn, fate := fates i }
      match conn.setAndRead abandon (fates i) with
      | .replied true next => (runFrom rest next ⟨acked.entries ++ [entry pre i]⟩).after attempt
      | .replied false next => (runFrom rest next acked).after attempt
      | .failed kind =>
          if isAbandon kind then
            match LoadConn.connect abandon (fates i).connectError with
            | .ok next => (runFrom rest next acked).after attempt
            | .error kind => { attempts := [attempt], outcome := .failed kind }
          else { attempts := [attempt], outcome := .failed kind }
      | .waits => { attempts := [attempt], outcome := .waits }

def runLoad (start stop : Nat) (connectError : Option ErrorKind) : Load :=
  match LoadConn.connect abandon connectError with
  | .ok conn => runFrom pre abandon fates (List.range' start (stop - start)) conn ⟨[]⟩
  | .error kind => { attempts := [], outcome := .failed kind }

end Run

end Load

/-! ### Answers -/

namespace Attempt

variable (abandon : Option Nat) (attempt : Attempt)

/-- Everything the proxy owes the connection, up to the reply to this write. -/
def due : Bytes := attempt.conn.owed ++ attempt.fate.reply.bytes

structure Sent : Prop where
  written : attempt.fate.writeError = none
  connected : attempt.conn.ending = none

/-- The reply to this write is `+OK`, and all of it comes. -/
structure RepliedOk : Prop extends Sent attempt where
  ok : attempt.fate.reply.reply = .simple "OK"
  whole : attempt.due.length ≤ attempt.fate.gaps.length

def took : Nat := (attempt.fate.gaps.take attempt.due.length).sum

/-- The write is answered `+OK` within the deadline. -/
structure Answered : Prop extends RepliedOk attempt where
  inTime : ∀ d, abandon = some d → attempt.took < d

/-- `+OK` comes too late, and no byte of it long after the one before. -/
structure Dribbled : Prop extends RepliedOk attempt where
  each : ∀ gap ∈ attempt.fate.gaps.take attempt.due.length, soon abandon gap = true
  late : ∃ d, abandon = some d ∧ d ≤ attempt.took

/-- The connection is closed inside a reply, behind bytes that read `+OK`. -/
structure CutShort : Prop extends Sent attempt where
  closed : attempt.fate.ending = some .closed
  each : ∀ gap ∈ attempt.fate.gaps, soon abandon gap = true
  cut : attempt.fate.gaps.length < attempt.due.length
  reads : ReadsSimple (attempt.due.take attempt.fate.gaps.length) "OK"

def recorded : Bool :=
  match attempt.conn.setAndRead abandon attempt.fate with
  | .replied ok _ => ok
  | _ => false

end Attempt

/-! ### What one attempt comes to -/

theorem le_takeWhile_iff {α : Type} (p : α → Bool) (l : List α) (n : Nat) :
    n ≤ (l.takeWhile p).length ↔ n ≤ l.length ∧ ∀ x ∈ l.take n, p x = true := by
  induction l generalizing n with
  | nil => simp
  | cons x l ih =>
      cases n with
      | zero => simp
      | succ n =>
          rw [List.take_succ_cons, List.forall_mem_cons, List.length_cons]
          by_cases holds : p x = true
          · rw [List.takeWhile_cons_of_pos holds, List.length_cons, Nat.succ_le_succ_iff, ih,
              Nat.succ_le_succ_iff]
            constructor
            · intro ⟨long, rest⟩
              exact ⟨long, holds, rest⟩
            · intro ⟨long, _, rest⟩
              exact ⟨long, rest⟩
          · rw [List.takeWhile_cons_of_neg holds]
            exact iff_of_false (Nat.not_succ_le_zero n) (fun all => holds all.2.1)

namespace Attempt

variable {abandon : Option Nat} {attempt : Attempt}

def inTime (abandon : Option Nat) (attempt : Attempt) : Nat :=
  (attempt.fate.gaps.takeWhile (soon abandon)).length

def ends (abandon : Option Nat) (attempt : Attempt) : Option Ending :=
  if attempt.inTime abandon < attempt.fate.gaps.length then none else attempt.fate.ending

theorem incoming_sent (sent : attempt.Sent) :
    attempt.conn.incoming abandon attempt.fate =
      { input := attempt.due.take (attempt.inTime abandon)
        later := attempt.due.drop (attempt.inTime abandon)
        ending := attempt.ends abandon } := by
  unfold LoadConn.incoming
  rw [sent.connected]
  rfl

theorem replied_of_recorded (taken : attempt.recorded abandon = true) :
    ∃ next, attempt.conn.setAndRead abandon attempt.fate = .replied true next := by
  unfold recorded at taken
  cases result : attempt.conn.setAndRead abandon attempt.fate with
  | replied ok next =>
      rw [result] at taken
      exact ⟨next, congrArg (SetResult.replied · next) taken⟩
  | failed kind =>
      rw [result] at taken
      cases taken
  | waits =>
      rw [result] at taken
      cases taken

theorem sent_of_replied (aligned : attempt.conn.owed = []) {ok : Bool} {next : LoadConn}
    (replied : attempt.conn.setAndRead abandon attempt.fate = .replied ok next) :
    attempt.Sent := by
  unfold LoadConn.setAndRead at replied
  cases written : attempt.fate.writeError with
  | some kind =>
      rw [written] at replied
      cases replied
  | none =>
      refine ⟨written, ?_⟩
      rw [written] at replied
      cases ending : attempt.conn.ending with
      | none => rfl
      | some how =>
          unfold LoadConn.incoming at replied
          rw [ending, aligned] at replied
          cases how with
          | closed => cases replied
          | reset => cases replied

theorem setAndRead_whole (aligned : attempt.conn.owed = []) (sent : attempt.Sent)
    (whole : attempt.due.length ≤ attempt.inTime abandon) :
    attempt.conn.setAndRead abandon attempt.fate =
      .replied (attempt.fate.reply.reply == .simple "OK")
        { owed := [], ending := attempt.ends abandon } := by
  have due : attempt.due = attempt.fate.reply.bytes := by
    rw [Attempt.due, aligned, List.nil_append]
  unfold LoadConn.setAndRead
  rw [sent.written, incoming_sent sent, List.take_of_length_le whole, List.drop_of_length_le whole,
    due]
  have read := fun ended => readReply_bytes attempt.fate.wellFormed ended []
  simp only [List.append_nil] at read
  simp only [read, ite_self, List.append_nil]

theorem waits_cut (aligned : attempt.conn.owed = [])
    (cut : attempt.inTime abandon < attempt.due.length) :
    readReply false (attempt.due.take (attempt.inTime abandon)) = .blocked := by
  have due : attempt.due = attempt.fate.reply.bytes := by
    rw [Attempt.due, aligned, List.nil_append]
  rw [due] at cut ⊢
  refine readReply_cut attempt.fate.wellFormed (List.take_prefix _ _) ?_
  intro same
  have lengths := congrArg List.length same
  rw [List.length_take] at lengths
  omega

theorem setAndRead_cut (aligned : attempt.conn.owed = []) (sent : attempt.Sent)
    (cut : attempt.inTime abandon < attempt.due.length) {ok : Bool} {next : LoadConn}
    (replied : attempt.conn.setAndRead abandon attempt.fate = .replied ok next) :
    next.owed = [] ∧ (ok = true → attempt.ends abandon = some .closed ∧
      ReadsSimple (attempt.due.take (attempt.inTime abandon)) "OK") := by
  have waits := waits_cut aligned cut
  unfold LoadConn.setAndRead at replied
  rw [sent.written, incoming_sent sent] at replied
  simp only at replied
  cases ending : attempt.ends abandon with
  | none =>
      simp only [ending, waits] at replied
      split at replied
      · cases replied
      · cases replied
  | some how =>
      cases how with
      | reset =>
          simp only [ending, waits] at replied
          cases replied
      | closed =>
          simp only [ending] at replied
          cases read : readReply true (attempt.due.take (attempt.inTime abandon)) with
          | blocked =>
              rw [read] at replied
              cases replied
          | finished result rest =>
              rw [read] at replied
              cases result with
              | error e => cases replied
              | ok reply =>
                  cases replied
                  refine ⟨?_, fun same => ⟨rfl, ?_⟩⟩
                  · rw [readReplyFor_ended waits read]
                    rfl
                  · rw [beq_iff_eq] at same
                    rw [same] at read
                    exact (readReply_ended_simple_iff waits "OK").mp ⟨rest, read⟩

theorem recorded_cut (aligned : attempt.conn.owed = []) (sent : attempt.Sent)
    (cut : attempt.inTime abandon < attempt.due.length) :
    attempt.recorded abandon = true ↔ attempt.ends abandon = some .closed ∧
      ReadsSimple (attempt.due.take (attempt.inTime abandon)) "OK" := by
  constructor
  · intro taken
    obtain ⟨next, replied⟩ := replied_of_recorded taken
    exact (setAndRead_cut aligned sent cut replied).2 rfl
  · intro ⟨closed, reads⟩
    obtain ⟨rest, read⟩ := (readReply_ended_simple_iff (waits_cut aligned cut) "OK").mpr reads
    unfold recorded LoadConn.setAndRead
    rw [sent.written, incoming_sent sent]
    simp only [closed, read]
    rfl

theorem replied_aligned (aligned : attempt.conn.owed = []) {ok : Bool} {next : LoadConn}
    (replied : attempt.conn.setAndRead abandon attempt.fate = .replied ok next) :
    next.owed = [] := by
  have sent := sent_of_replied aligned replied
  rcases Nat.lt_or_ge (attempt.inTime abandon) attempt.due.length with cut | whole
  · exact (setAndRead_cut aligned sent cut replied).1
  · rw [setAndRead_whole aligned sent whole] at replied
    cases replied
    rfl

/-! ### What is recorded -/

theorem length_le_inTime_iff :
    attempt.due.length ≤ attempt.inTime abandon ↔
      attempt.due.length ≤ attempt.fate.gaps.length ∧
        ∀ gap ∈ attempt.fate.gaps.take attempt.due.length, soon abandon gap = true :=
  le_takeWhile_iff (soon abandon) attempt.fate.gaps attempt.due.length

theorem ends_closed_iff (abandon : Option Nat) (attempt : Attempt) :
    attempt.ends abandon = some .closed ↔ attempt.fate.ending = some .closed ∧
      ∀ gap ∈ attempt.fate.gaps, soon abandon gap = true := by
  have all := le_takeWhile_iff (soon abandon) attempt.fate.gaps attempt.fate.gaps.length
  rw [List.take_length] at all
  unfold ends
  split
  · rename_i late
    refine iff_of_false (fun impossible => by cases impossible) ?_
    intro ⟨_, each⟩
    exact Nat.not_le.mpr late (all.mpr ⟨Nat.le_refl _, each⟩)
  · rename_i whole
    have each := (all.mp (Nat.not_lt.mp whole)).2
    exact ⟨fun closed => ⟨closed, each⟩, And.left⟩

theorem Answered.each (answered : attempt.Answered abandon) :
    ∀ gap ∈ attempt.fate.gaps.take attempt.due.length, soon abandon gap = true := by
  intro gap member
  unfold soon
  cases deadline : abandon with
  | none => rfl
  | some d =>
      have within := answered.inTime d deadline
      have least : gap ≤ attempt.took := List.single_le_sum (fun x _ => Nat.zero_le x) gap member
      exact decide_eq_true (Nat.lt_of_le_of_lt least within)

theorem inTime_of_each (each : ∀ gap ∈ attempt.fate.gaps, soon abandon gap = true) :
    attempt.inTime abandon = attempt.fate.gaps.length := by
  unfold inTime
  rw [List.takeWhile_eq_self_iff.mpr each]

theorem CutShort.recorded (aligned : attempt.conn.owed = [])
    (cutShort : attempt.CutShort abandon) : attempt.recorded abandon = true := by
  have inTime := inTime_of_each cutShort.each
  have cut : attempt.inTime abandon < attempt.due.length := by
    rw [inTime]
    exact cutShort.cut
  refine (recorded_cut aligned cutShort.toSent cut).mpr ⟨?_, ?_⟩
  · exact (ends_closed_iff abandon attempt).mpr ⟨cutShort.closed, cutShort.each⟩
  · rw [inTime]
    exact cutShort.reads

theorem RepliedOk.recorded (aligned : attempt.conn.owed = []) (replied : attempt.RepliedOk)
    (each : ∀ gap ∈ attempt.fate.gaps.take attempt.due.length, soon abandon gap = true) :
    attempt.recorded abandon = true := by
  have whole := length_le_inTime_iff.mpr ⟨replied.whole, each⟩
  unfold Attempt.recorded
  rw [setAndRead_whole aligned replied.toSent whole, replied.ok]
  exact beq_self_eq_true _

theorem recorded_cases (aligned : attempt.conn.owed = [])
    (taken : attempt.recorded abandon = true) :
    attempt.CutShort abandon ∨ attempt.RepliedOk ∧
      ∀ gap ∈ attempt.fate.gaps.take attempt.due.length, soon abandon gap = true := by
  obtain ⟨next, result⟩ := replied_of_recorded taken
  have sent := sent_of_replied aligned result
  rcases Nat.lt_or_ge (attempt.inTime abandon) attempt.due.length with cut | whole
  · left
    obtain ⟨closed, reads⟩ := (recorded_cut aligned sent cut).mp taken
    obtain ⟨ending, each⟩ := (ends_closed_iff abandon attempt).mp closed
    rw [inTime_of_each each] at cut reads
    exact { toSent := sent, closed := ending, each, cut, reads }
  · right
    obtain ⟨long, each⟩ := length_le_inTime_iff.mp whole
    refine ⟨⟨sent, ?_, long⟩, each⟩
    rw [setAndRead_whole aligned sent whole] at result
    injection result with same
    exact beq_iff_eq.mp same

/-- What is recorded is answered in time, unless it is cut short or dribbled. -/
theorem recorded_answered_iff (aligned : attempt.conn.owed = []) :
    (attempt.recorded abandon = true → attempt.Answered abandon) ↔
      ¬attempt.CutShort abandon ∧ ¬attempt.Dribbled abandon := by
  constructor
  · intro answers
    constructor
    · intro cutShort
      have answered := answers (cutShort.recorded aligned)
      exact Nat.not_le.mpr cutShort.cut answered.whole
    · intro dribbled
      have answered := answers (dribbled.toRepliedOk.recorded aligned dribbled.each)
      obtain ⟨d, deadline, late⟩ := dribbled.late
      exact Nat.not_le.mpr (answered.inTime d deadline) late
  · intro ⟨notCut, notDribbled⟩ taken
    rcases recorded_cases aligned taken with cutShort | ⟨replied, each⟩
    · exact absurd cutShort notCut
    · refine ⟨replied, fun d deadline => ?_⟩
      by_contra late
      exact notDribbled ⟨replied, each, d, deadline, Nat.not_lt.mp late⟩

end Attempt

/-! ### A whole load -/

namespace Load

section Run

variable {pre : String} {abandon : Option Nat} {fates : Nat → Fate}

theorem connect_aligned {error : Option ErrorKind} {conn : LoadConn}
    (connected : LoadConn.connect abandon error = .ok conn) : conn.owed = [] := by
  unfold LoadConn.connect at connected
  split at connected
  · cases connected
  · split at connected
    · cases connected
    · cases connected
      rfl

/-- The load from a connection on: every index is tried once, over a connection
with nothing left on it, and the recorded ones are added in order. -/
structure Complete (pre : String) (abandon : Option Nat) (fates : Nat → Fate)
    (indices : List Nat) (before acked : AckedWrites) (attempts : List Attempt) : Prop where
  tried : attempts.map Attempt.index = indices
  fate : ∀ attempt ∈ attempts, attempt.fate = fates attempt.index
  aligned : ∀ attempt ∈ attempts, attempt.conn.owed = []
  entries : acked.entries = before.entries ++
    (attempts.filter (Attempt.recorded abandon)).map (fun attempt => entry pre attempt.index)

theorem Complete.cons {indices : List Nat} {before between acked : AckedWrites}
    {attempts : List Attempt} (attempt : Attempt) (fate : attempt.fate = fates attempt.index)
    (aligned : attempt.conn.owed = [])
    (taken : between.entries = before.entries ++
      if attempt.recorded abandon then [entry pre attempt.index] else [])
    (later : Complete pre abandon fates indices between acked attempts) :
    Complete pre abandon fates (attempt.index :: indices) before acked (attempt :: attempts) := by
  constructor
  · rw [List.map_cons, later.tried]
  · exact List.forall_mem_cons.mpr ⟨fate, later.fate⟩
  · exact List.forall_mem_cons.mpr ⟨aligned, later.aligned⟩
  · rw [later.entries, taken, List.append_assoc]
    cases recorded : attempt.recorded abandon with
    | true => rw [List.filter_cons_of_pos recorded, if_pos rfl, List.map_cons]; rfl
    | false =>
        rw [List.filter_cons_of_neg (by rw [recorded]; exact Bool.false_ne_true)]
        rfl

theorem runFrom_complete (indices : List Nat) {conn : LoadConn} {before acked : AckedWrites}
    (aligned : conn.owed = [])
    (returned : (runFrom pre abandon fates indices conn before).outcome = .ok acked) :
    Complete pre abandon fates indices before acked
      (runFrom pre abandon fates indices conn before).attempts := by
  induction indices generalizing conn before with
  | nil =>
      cases returned
      exact ⟨rfl, by simp [runFrom], by simp [runFrom], (List.append_nil _).symm⟩
  | cons i rest ih =>
      let attempt : Attempt := { index := i, conn, fate := fates i }
      unfold runFrom at returned ⊢
      cases result : conn.setAndRead abandon (fates i) with
      | replied ok next =>
          have nextAligned := @Attempt.replied_aligned abandon attempt aligned ok next result
          have recorded : attempt.recorded abandon = ok := by
            unfold Attempt.recorded
            rw [show attempt.conn.setAndRead abandon attempt.fate = .replied ok next from result]
          cases ok with
          | true =>
              simp only [result] at returned ⊢
              refine Complete.cons attempt rfl aligned ?_ (ih nextAligned returned)
              rw [recorded]
              rfl
          | false =>
              simp only [result] at returned ⊢
              refine Complete.cons attempt rfl aligned ?_ (ih nextAligned returned)
              rw [recorded]
              exact (List.append_nil _).symm
      | failed kind =>
          have recorded : attempt.recorded abandon = false := by
            unfold Attempt.recorded
            rw [show attempt.conn.setAndRead abandon attempt.fate = .failed kind from result]
          simp only [result] at returned ⊢
          split at returned
          · rename_i abandons
            rw [if_pos abandons]
            cases connects : LoadConn.connect abandon (fates i).connectError with
            | error kind =>
                rw [connects] at returned
                cases returned
            | ok next =>
                simp only [connects] at returned ⊢
                refine Complete.cons attempt rfl aligned ?_
                  (ih (connect_aligned connects) returned)
                rw [recorded]
                exact (List.append_nil _).symm
          · cases returned
      | waits =>
          simp only [result] at returned
          cases returned

end Run

open scoped Classical in
/-- A load that returns has tried every write of its range once and in order,
each over a connection with nothing left of another.  What it recorded are the
writes answered `+OK` within the deadline exactly when no reply was cut short
behind `+OK` and none dribbled in. -/
theorem load_records_answered_iff (pre : String) (abandon : Option Nat) (fates : Nat → Fate)
    (start stop : Nat) (connectError : Option ErrorKind) (acked : AckedWrites)
    (returned : (runLoad pre abandon fates start stop connectError).outcome = .ok acked) :
    let attempts := (runLoad pre abandon fates start stop connectError).attempts
    attempts.map Attempt.index = List.range' start (stop - start) ∧
    (∀ attempt ∈ attempts, attempt.fate = fates attempt.index ∧ attempt.conn.owed = []) ∧
    (acked.entries = (attempts.filter (fun attempt => decide (attempt.Answered abandon))).map
        (fun attempt => entry pre attempt.index) ↔
      ∀ attempt ∈ attempts, ¬attempt.CutShort abandon ∧ ¬attempt.Dribbled abandon) := by
  have complete : Complete pre abandon fates (List.range' start (stop - start)) ⟨[]⟩ acked
      (runLoad pre abandon fates start stop connectError).attempts := by
    unfold runLoad at returned ⊢
    cases connects : LoadConn.connect abandon connectError with
    | error kind =>
        rw [connects] at returned
        cases returned
    | ok conn =>
        simp only [connects] at returned ⊢
        exact runFrom_complete _ (connect_aligned connects) returned
  refine ⟨complete.tried, fun attempt member =>
    ⟨complete.fate attempt member, complete.aligned attempt member⟩, ?_⟩
  rw [complete.entries, List.nil_append, eq_comm, map_filter_eq_iff]
  · constructor
    · intro answers attempt member
      refine (Attempt.recorded_answered_iff (complete.aligned attempt member)).mp ?_
      exact fun taken => of_decide_eq_true (answers attempt member taken)
    · intro clean attempt member taken
      refine decide_eq_true ?_
      exact (Attempt.recorded_answered_iff (complete.aligned attempt member)).mpr
        (clean attempt member) taken
  · intro attempt member answered
    have inTime := of_decide_eq_true answered
    exact inTime.toRepliedOk.recorded (complete.aligned attempt member) inTime.each

/-! ### Four fates -/

theorem line_wellFormed {line : Bytes} (isLine : IsLine line) :
    (WireReply.simple line).WellFormed := ⟨isLine, True.intro⟩

def okFate (gap : Nat) : Fate where
  writeError := none
  reply := .simple (asBytes "OK")
  gaps := List.replicate 5 gap
  ending := none
  connectError := none
  wellFormed := line_wellFormed (by decide)

def silentFate : Fate := { okFate 1 with gaps := [] }

def cutFate : Fate where
  writeError := none
  reply := .simple (asBytes "OKAY")
  gaps := [1, 1, 1]
  ending := some .closed
  connectError := none
  wellFormed := line_wellFormed (by decide)

def fresh : LoadConn := { owed := [], ending := none }

def someSilent (i : Nat) : Fate := if i = 1 then silentFate else okFate 1

/-- The middle one of three writes is abandoned. -/
theorem silent_write_abandoned :
    [entry "k" 0, entry "k" 2] =
      ((runLoad "k" (some 10) someSilent 0 3 none).attempts.filter
        (fun attempt => @decide (attempt.Answered (some 10)) (Classical.propDecidable _))).map
        (fun attempt => entry "k" attempt.index) := by
  have attempts : (runLoad "k" (some 10) someSilent 0 3 none).attempts =
      [⟨0, fresh, okFate 1⟩, ⟨1, fresh, silentFate⟩, ⟨2, fresh, okFate 1⟩] := by rfl
  refine (load_records_answered_iff "k" (some 10) someSilent 0 3 none
    ⟨[entry "k" 0, entry "k" 2]⟩ (by rfl)).2.2.mpr ?_
  have stays : ∀ attempt : Attempt, attempt.fate.ending = none → ¬attempt.CutShort (some 10) := by
    intro attempt open_ cut
    rw [cut.closed] at open_
    cases open_
  have prompt : ∀ index, ¬(Attempt.mk index fresh (okFate 1)).Dribbled (some 10) := by
    intro index dribbled
    obtain ⟨d, deadline, late⟩ := dribbled.late
    cases deadline
    revert late
    exact (by decide : ¬10 ≤ (Attempt.mk 0 fresh (okFate 1)).took)
  rw [attempts]
  intro attempt member
  simp only [List.mem_cons, List.not_mem_nil, or_false] at member
  rcases member with rfl | rfl | rfl
  · exact ⟨stays _ rfl, prompt 0⟩
  · exact ⟨stays _ rfl, fun dribbled => absurd dribbled.whole (by decide)⟩
  · exact ⟨stays _ rfl, prompt 2⟩

/-- A write that is answered `+OKAY`, of which three bytes come, is recorded; so
is one whose `+OK` takes twice the deadline. -/
theorem unanswered_writes_recorded :
    (runLoad "k" (some 10) (fun _ => cutFate) 0 1 none).outcome = .ok ⟨[entry "k" 0]⟩ ∧
      (runLoad "k" (some 10) (fun _ => cutFate) 0 1 none).attempts = [⟨0, fresh, cutFate⟩] ∧
      ¬(Attempt.mk 0 fresh cutFate).Answered (some 10) ∧
      (runLoad "k" (some 10) (fun _ => okFate 4) 0 1 none).outcome = .ok ⟨[entry "k" 0]⟩ ∧
      (runLoad "k" (some 10) (fun _ => okFate 4) 0 1 none).attempts = [⟨0, fresh, okFate 4⟩] ∧
      ¬(Attempt.mk 0 fresh (okFate 4)).Answered (some 10) := by
  refine ⟨by rfl, by rfl, ?_, by rfl, by rfl, ?_⟩
  · intro answered
    exact absurd answered.whole (by decide)
  · intro answered
    exact absurd (answered.inTime 10 rfl) (by decide)

end Load

end TrainsValkey
