import TrainsValkey.Command

/-
The verifier of the chaos run.

It asks every surviving engine for every acked key and for the size of its
keyspace, in one process or survivor by survivor.  Nothing writes to the
survivors while they are verified, so what one of them answers depends on the
command alone.
-/

set_option autoImplicit false

namespace TrainsValkey

/-- The writes the proxy acknowledged, in the order it did. -/
structure AckedWrites where
  entries : List (Bytes × Bytes)

/-- An engine by its address: connecting may fail, and a connected engine
answers. -/
structure SurvivingEngine where
  connectAuth : Option String → Except String (Command → Reply)

/-! ### The two verifiers -/

namespace Chaos

def get (key : Bytes) : Command := { name := "GET", argv := [asBytes "GET", key] }

def dbsize : Command := { name := "DBSIZE", argv := [asBytes "DBSIZE"] }

def printed (entry : Bytes × Bytes) : String := fromUtf8Lossy entry.1

def keeps (be : Command → Reply) (entry : Bytes × Bytes) : Bool :=
  be (get entry.1) == .bulk entry.2

/-- The size in a report; a reply that is no number counts as -1. -/
def answeredSize (be : Command → Reply) : Int :=
  match be dbsize with
  | .integer n => n
  | _ => -1

def windowsAlike (dbsizes : List Int) : Bool :=
  (dbsizes.zip dbsizes.tail).all (fun w => w.1 == w.2)

end Chaos

open Chaos

structure VerifyReport where
  engines : Nat
  ackedTotal : Nat
  ackedLoss : List String
  dbsizes : List Int
  converged : Bool

def VerifyReport.ok (report : VerifyReport) : Bool :=
  report.ackedLoss.isEmpty && report.converged

def verify (engines : List SurvivingEngine) (password : Option String) (acked : AckedWrites) :
    Except String VerifyReport := do
  let backends ← engines.mapM (fun engine => engine.connectAuth password)
  let dbsizes := backends.map answeredSize
  return {
    engines := engines.length
    ackedTotal := acked.entries.length
    ackedLoss := (acked.entries.filter
      (fun entry => !backends.all (fun be => keeps be entry))).map printed
    dbsizes
    converged := windowsAlike dbsizes }

structure PartialReport where
  engineLabel : String
  ackedTotal : Nat
  missingKeys : List String
  dbsize : Int

def verifyOne (engine : SurvivingEngine) (password : Option String) (label : String)
    (acked : AckedWrites) : Except String PartialReport := do
  let backend ← engine.connectAuth password
  return {
    engineLabel := label
    ackedTotal := acked.entries.length
    missingKeys := (acked.entries.filter (fun entry => !keeps backend entry)).map printed
    dbsize := answeredSize backend }

/-! ### What a report should vouch for -/

def SurvivingEngine.Answers (engine : SurvivingEngine) (password : Option String) (cmd : Command)
    (reply : Reply) : Prop :=
  ∃ be, engine.connectAuth password = .ok be ∧ be cmd = reply

section Verify

variable (engines : List SurvivingEngine) (password : Option String) (acked : AckedWrites)

/-- Somebody answered, every engine has every acked write, and all of them have
keyspaces of one size. -/
structure NothingLost : Prop where
  somebody : engines ≠ []
  kept : ∀ engine ∈ engines, ∀ entry ∈ acked.entries,
    engine.Answers password (get entry.1) (.bulk entry.2)
  alike : ∃ n, ∀ engine ∈ engines, engine.Answers password dbsize (.integer n)

/-- The engines have every acked write, but one has no number to say and no
other says a number but -1. -/
structure Mute : Prop where
  kept : ∀ engine ∈ engines, ∀ entry ∈ acked.entries,
    engine.Answers password (get entry.1) (.bulk entry.2)
  mute : ∃ engine ∈ engines, ∀ n, ¬engine.Answers password dbsize (.integer n)
  quiet : ∀ engine ∈ engines, ∃ reply, engine.Answers password dbsize reply ∧
    ∀ n, reply = .integer n → n = -1

def Lost (entry : Bytes × Bytes) : Prop :=
  ∃ engine ∈ engines, ∃ reply, engine.Answers password (get entry.1) reply ∧ reply ≠ .bulk entry.2

def MissingSomewhere (key : String) : Prop :=
  ∃ engine ∈ engines, ∃ label report,
    verifyOne engine password label acked = .ok report ∧ key ∈ report.missingKeys

/-- No acked write is printed like another one that is lost and it is not. -/
def PrintedApart : Prop :=
  ∀ entry ∈ acked.entries, ∀ other ∈ acked.entries, printed entry = printed other →
    Lost engines password other → Lost engines password entry

end Verify

/-! ### What the reports say -/

theorem mapM_ok_iff {α β ε : Type} {f : α → Except ε β} {xs : List α} {ys : List β} :
    xs.mapM f = .ok ys ↔ xs.map f = ys.map .ok := by
  induction xs generalizing ys with
  | nil =>
      rw [List.mapM_nil, List.map_nil]
      constructor
      · intro same
        cases same
        rfl
      · intro same
        rw [List.map_eq_nil_iff.mp same.symm]
        rfl
  | cons x xs ih =>
      rw [List.mapM_cons, List.map_cons]
      constructor
      · intro same
        cases first : f x with
        | error e =>
            rw [first] at same
            cases same
        | ok y =>
            cases later : xs.mapM f with
            | error e =>
                rw [first, later] at same
                cases same
            | ok rest =>
                rw [first, later] at same
                cases same
                rw [ih.mp later]
                rfl
      · intro same
        cases ys with
        | nil => cases same
        | cons y rest =>
            obtain ⟨first, later⟩ := List.cons.inj same
            rw [first, ih.mpr later]
            rfl

theorem windowsAlike_iff (dbsizes : List Int) :
    windowsAlike dbsizes = true ↔ ∀ a ∈ dbsizes, ∀ b ∈ dbsizes, a = b := by
  cases dbsizes with
  | nil => exact iff_of_true rfl (fun a member => absurd member List.not_mem_nil)
  | cons first rest =>
      have same : windowsAlike (first :: rest) = true ↔ ∀ a ∈ rest, a = first := by
        induction rest generalizing first with
        | nil => exact iff_of_true rfl (fun a member => absurd member List.not_mem_nil)
        | cons second rest ih =>
            have step : windowsAlike (first :: second :: rest) =
                (first == second && windowsAlike (second :: rest)) := rfl
            rw [step, Bool.and_eq_true, beq_iff_eq, ih, List.forall_mem_cons]
            constructor
            · intro ⟨here, later⟩
              exact ⟨here.symm, fun a member => (later a member).trans here.symm⟩
            · intro ⟨here, later⟩
              exact ⟨here.symm, fun a member => (later a member).trans here.symm⟩
      rw [same]
      constructor
      · intro alike a memberA b memberB
        have atFirst : ∀ c ∈ first :: rest, c = first :=
          List.forall_mem_cons.mpr ⟨rfl, alike⟩
        rw [atFirst a memberA, atFirst b memberB]
      · intro alike a member
        exact alike a (List.mem_cons_of_mem _ member) first List.mem_cons_self

theorem answeredSize_integer {be : Command → Reply} {n : Int} (said : be dbsize = .integer n) :
    answeredSize be = n := by
  rw [answeredSize, said]

theorem answeredSize_cases (be : Command → Reply) :
    (∃ n, be dbsize = .integer n ∧ answeredSize be = n) ∨
      (∀ n, be dbsize ≠ .integer n) ∧ answeredSize be = -1 := by
  unfold answeredSize
  cases be dbsize with
  | integer n => exact .inl ⟨n, rfl, rfl⟩
  | _ => exact .inr ⟨fun n same => Reply.noConfusion same, rfl⟩

namespace SurvivingEngine

variable {engine : SurvivingEngine} {password : Option String} {be : Command → Reply}

theorem answers_iff (connected : engine.connectAuth password = .ok be) {cmd : Command}
    {reply : Reply} : engine.Answers password cmd reply ↔ be cmd = reply := by
  constructor
  · intro ⟨other, same, answered⟩
    rw [connected] at same
    cases same
    exact answered
  · intro answered
    exact ⟨be, connected, answered⟩

theorem keeps_iff (connected : engine.connectAuth password = .ok be) {entry : Bytes × Bytes} :
    keeps be entry = true ↔ engine.Answers password (get entry.1) (.bulk entry.2) := by
  rw [answers_iff connected, keeps, beq_iff_eq]

end SurvivingEngine

def Connected (engines : List SurvivingEngine) (password : Option String)
    (backends : List (Command → Reply)) : Prop :=
  engines.map (fun engine => engine.connectAuth password) = backends.map .ok

section Report

variable {engines : List SurvivingEngine} {password : Option String} {acked : AckedWrites}
  {backends : List (Command → Reply)}

theorem Connected.backend (connected : Connected engines password backends)
    {engine : SurvivingEngine} (member : engine ∈ engines) :
    ∃ be ∈ backends, engine.connectAuth password = .ok be := by
  have mapped := List.mem_map_of_mem (f := fun engine => engine.connectAuth password) member
  rw [connected] at mapped
  obtain ⟨be, memberBe, same⟩ := List.mem_map.mp mapped
  exact ⟨be, memberBe, same.symm⟩

theorem Connected.engine (connected : Connected engines password backends)
    {be : Command → Reply} (member : be ∈ backends) :
    ∃ engine ∈ engines, engine.connectAuth password = .ok be := by
  have mapped : (.ok be : Except String (Command → Reply)) ∈ backends.map .ok :=
    List.mem_map_of_mem member
  rw [← connected] at mapped
  obtain ⟨engine, memberEngine, same⟩ := List.mem_map.mp mapped
  exact ⟨engine, memberEngine, same⟩

theorem connected_of_each {engines : List SurvivingEngine}
    (each : ∀ engine ∈ engines, ∃ be, engine.connectAuth password = .ok be) :
    ∃ backends, Connected engines password backends := by
  induction engines with
  | nil => exact ⟨[], rfl⟩
  | cons engine rest ih =>
      obtain ⟨be, connected⟩ := each engine List.mem_cons_self
      obtain ⟨backends, later⟩ := ih (fun other member => each other (List.mem_cons_of_mem _ member))
      refine ⟨be :: backends, ?_⟩
      unfold Connected at later ⊢
      rw [List.map_cons, List.map_cons, connected, later]

def jointReport (backends : List (Command → Reply)) (acked : AckedWrites) : VerifyReport where
  engines := backends.length
  ackedTotal := acked.entries.length
  ackedLoss := (acked.entries.filter
    (fun entry => !backends.all (fun be => keeps be entry))).map printed
  dbsizes := backends.map answeredSize
  converged := windowsAlike (backends.map answeredSize)

theorem verify_connected (connected : Connected engines password backends) :
    verify engines password acked = .ok (jointReport backends acked) := by
  have length : engines.length = backends.length := by
    have lengths := congrArg List.length connected
    rwa [List.length_map, List.length_map] at lengths
  unfold verify jointReport
  rw [mapM_ok_iff.mpr connected, length]
  rfl

theorem connected_of_verify {report : VerifyReport}
    (reported : verify engines password acked = .ok report) :
    ∃ backends, Connected engines password backends ∧ report = jointReport backends acked := by
  cases connects : engines.mapM (fun engine => engine.connectAuth password) with
  | error e =>
      rw [verify, connects] at reported
      cases reported
  | ok backends =>
      have connected : Connected engines password backends := mapM_ok_iff.mp connects
      rw [verify_connected connected] at reported
      exact ⟨backends, connected, (Except.ok.inj reported).symm⟩

theorem lost_iff (connected : Connected engines password backends) (entry : Bytes × Bytes) :
    (!backends.all (fun be => keeps be entry)) = true ↔ Lost engines password entry := by
  rw [Bool.not_eq_true', List.all_eq_false]
  constructor
  · intro ⟨be, member, missed⟩
    obtain ⟨engine, memberEngine, connect⟩ := connected.engine member
    refine ⟨engine, memberEngine, be (get entry.1), ⟨be, connect, rfl⟩, ?_⟩
    rw [SurvivingEngine.keeps_iff connect, SurvivingEngine.answers_iff connect] at missed
    exact missed
  · intro ⟨engine, member, reply, said, other⟩
    obtain ⟨be, memberBe, connect⟩ := connected.backend member
    refine ⟨be, memberBe, ?_⟩
    rw [SurvivingEngine.keeps_iff connect, SurvivingEngine.answers_iff connect]
    rw [SurvivingEngine.answers_iff connect] at said
    rw [said]
    exact other

theorem verifyOne_ok_iff {engine : SurvivingEngine} {label : String} {report : PartialReport} :
    verifyOne engine password label acked = .ok report ↔
      ∃ be, engine.connectAuth password = .ok be ∧
        report =
          { engineLabel := label
            ackedTotal := acked.entries.length
            missingKeys := (acked.entries.filter (fun entry => !keeps be entry)).map printed
            dbsize := answeredSize be } := by
  unfold verifyOne
  cases connects : engine.connectAuth password with
  | error e =>
      refine iff_of_false (fun impossible => by cases impossible) ?_
      intro ⟨be, impossible, _⟩
      cases impossible
  | ok be =>
      constructor
      · intro same
        cases same
        exact ⟨be, rfl, rfl⟩
      · intro ⟨other, same, made⟩
        cases same
        rw [made]
        rfl

theorem missingSomewhere_iff (key : String) :
    MissingSomewhere engines password acked key ↔
      ∃ entry ∈ acked.entries, Lost engines password entry ∧ printed entry = key := by
  constructor
  · intro ⟨engine, member, label, report, made, missing⟩
    obtain ⟨be, connect, rfl⟩ := verifyOne_ok_iff.mp made
    obtain ⟨entry, found, same⟩ := List.mem_map.mp missing
    obtain ⟨memberEntry, missed⟩ := List.mem_filter.mp found
    rw [Bool.not_eq_true', ← Bool.not_eq_true, SurvivingEngine.keeps_iff connect,
      SurvivingEngine.answers_iff connect] at missed
    exact ⟨entry, memberEntry, ⟨engine, member, _, ⟨be, connect, rfl⟩, missed⟩, same⟩
  · intro ⟨entry, memberEntry, ⟨engine, member, reply, ⟨be, connect, said⟩, other⟩, same⟩
    refine ⟨engine, member, "", _, verifyOne_ok_iff.mpr ⟨be, connect, rfl⟩, ?_⟩
    refine List.mem_map.mpr ⟨entry, List.mem_filter.mpr ⟨memberEntry, ?_⟩, same⟩
    rw [Bool.not_eq_true', ← Bool.not_eq_true, SurvivingEngine.keeps_iff connect,
      SurvivingEngine.answers_iff connect, said]
    exact other

/-! ### Soundness -/

theorem ok_iff (connected : Connected engines password backends) :
    (jointReport backends acked).ok = true ↔
      (∀ engine ∈ engines, ∀ entry ∈ acked.entries,
        engine.Answers password (get entry.1) (.bulk entry.2)) ∧
      ∀ be ∈ backends, ∀ other ∈ backends, answeredSize be = answeredSize other := by
  have kept : (jointReport backends acked).ackedLoss.isEmpty = true ↔
      ∀ engine ∈ engines, ∀ entry ∈ acked.entries,
        engine.Answers password (get entry.1) (.bulk entry.2) := by
    rw [List.isEmpty_iff, jointReport, List.map_eq_nil_iff, List.filter_eq_nil_iff]
    constructor
    · intro unanswered engine member entry memberEntry
      obtain ⟨be, memberBe, connect⟩ := connected.backend member
      by_contra missed
      rw [SurvivingEngine.answers_iff connect] at missed
      exact unanswered entry memberEntry ((lost_iff connected entry).mpr
        ⟨engine, member, _, ⟨be, connect, rfl⟩, missed⟩)
    · intro all entry memberEntry lost
      obtain ⟨engine, member, reply, ⟨be, connect, said⟩, other⟩ :=
        (lost_iff connected entry).mp lost
      have answered := all engine member entry memberEntry
      rw [SurvivingEngine.answers_iff connect, said] at answered
      exact other answered
  have alike : (jointReport backends acked).converged = true ↔
      ∀ be ∈ backends, ∀ other ∈ backends, answeredSize be = answeredSize other := by
    rw [jointReport, windowsAlike_iff]
    simp only [List.forall_mem_map]
  rw [VerifyReport.ok, Bool.and_eq_true, kept, alike]

theorem Mute.passes (mute : Mute engines password acked) :
    ∃ report, verify engines password acked = .ok report ∧ report.ok = true := by
  obtain ⟨backends, connected⟩ := connected_of_each (fun engine member => by
    obtain ⟨reply, ⟨be, connect, _⟩, _⟩ := mute.quiet engine member
    exact ⟨be, connect⟩)
  have sizes : ∀ be ∈ backends, answeredSize be = -1 := by
    intro be member
    obtain ⟨engine, memberEngine, connect⟩ := connected.engine member
    obtain ⟨reply, said, quiet⟩ := mute.quiet engine memberEngine
    rw [SurvivingEngine.answers_iff connect] at said
    rcases answeredSize_cases be with ⟨n, number, size⟩ | ⟨_, size⟩
    · rw [size]
      exact quiet n (said.symm.trans number)
    · exact size
  refine ⟨_, verify_connected connected, (ok_iff connected).mpr ⟨mute.kept, ?_⟩⟩
  intro be member other memberOther
  rw [sizes be member, sizes other memberOther]

theorem nothingLost_of_ok (somebody : engines ≠ []) (heard : ¬Mute engines password acked)
    {report : VerifyReport} (reported : verify engines password acked = .ok report)
    (ok : report.ok = true) : NothingLost engines password acked := by
  obtain ⟨backends, connected, rfl⟩ := connected_of_verify reported
  obtain ⟨kept, alike⟩ := (ok_iff connected).mp ok
  have numbers : ∀ engine ∈ engines, ∃ n, engine.Answers password dbsize (.integer n) := by
    by_contra some_
    push Not at some_
    obtain ⟨silent, memberSilent, answered⟩ := some_
    refine heard ⟨kept, ⟨silent, memberSilent, answered⟩, ?_⟩
    obtain ⟨mute, memberMute, connectMute⟩ := connected.backend memberSilent
    have size : answeredSize mute = -1 := by
      rcases answeredSize_cases mute with ⟨n, number, _⟩ | ⟨_, size⟩
      · exact absurd ((SurvivingEngine.answers_iff connectMute).mpr number) (answered n)
      · exact size
    intro engine member
    obtain ⟨be, memberBe, connect⟩ := connected.backend member
    refine ⟨be dbsize, ⟨be, connect, rfl⟩, fun n number => ?_⟩
    rcases answeredSize_cases be with ⟨m, same, sized⟩ | ⟨unsized, _⟩
    · rw [number] at same
      cases same
      rw [← sized, alike be memberBe mute memberMute, size]
    · exact absurd number (unsized n)
  refine ⟨somebody, kept, ?_⟩
  obtain ⟨first, memberFirst⟩ := List.exists_mem_of_ne_nil engines somebody
  obtain ⟨n, said⟩ := numbers first memberFirst
  obtain ⟨be, memberBe, connect⟩ := connected.backend memberFirst
  refine ⟨n, fun engine member => ?_⟩
  obtain ⟨m, saidToo⟩ := numbers engine member
  obtain ⟨other, memberOther, connectOther⟩ := connected.backend member
  have here := answeredSize_integer ((SurvivingEngine.answers_iff connect).mp said)
  have there := answeredSize_integer ((SurvivingEngine.answers_iff connectOther).mp saidToo)
  rw [← here, alike be memberBe other memberOther, there]
  exact saidToo

/-! ### The split form -/

theorem map_filter_eq_iff {α β : Type} {l : List α} {p q : α → Bool} (f : α → β)
    (weaker : ∀ x ∈ l, p x = true → q x = true) :
    (l.filter p).map f = (l.filter q).map f ↔ ∀ x ∈ l, q x = true → p x = true := by
  constructor
  · intro same x member holds
    have twice : (l.filter q).filter p = l.filter p := by
      rw [List.filter_filter]
      refine List.filter_congr (fun y inside => ?_)
      cases passes : p y with
      | false => rfl
      | true => rw [weaker y inside passes, Bool.and_self]
    have shorter : (l.filter p).Sublist (l.filter q) := by
      rw [← twice]
      exact List.filter_sublist
    have lengths := congrArg List.length same
    rw [List.length_map, List.length_map] at lengths
    have filtered : x ∈ l.filter q := List.mem_filter.mpr ⟨member, holds⟩
    rw [← shorter.eq_of_length lengths] at filtered
    exact (List.mem_filter.mp filtered).2
  · intro stronger
    have congr : l.filter p = l.filter q := List.filter_congr (fun x member =>
      Bool.eq_iff_iff.mpr ⟨weaker x member, stronger x member⟩)
    rw [congr]

theorem split_by_keys (connected : Connected engines password backends) :
    (jointReport backends acked).ackedLoss.Sublist (acked.entries.map printed) ∧
      ∀ key, key ∈ (jointReport backends acked).ackedLoss ↔
        MissingSomewhere engines password acked key := by
  constructor
  · exact List.filter_sublist.map printed
  · intro key
    rw [missingSomewhere_iff, jointReport, List.mem_map]
    constructor
    · intro ⟨entry, found, same⟩
      obtain ⟨member, lost⟩ := List.mem_filter.mp found
      exact ⟨entry, member, (lost_iff connected entry).mp lost, same⟩
    · intro ⟨entry, member, lost, same⟩
      exact ⟨entry, List.mem_filter.mpr ⟨member, (lost_iff connected entry).mpr lost⟩, same⟩

open scoped Classical in
theorem split_by_entries_iff (connected : Connected engines password backends) :
    (jointReport backends acked).ackedLoss =
        (acked.entries.map printed).filter
          (fun key => decide (MissingSomewhere engines password acked key)) ↔
      PrintedApart engines password acked := by
  rw [List.filter_map, jointReport, map_filter_eq_iff]
  · constructor
    · intro named entry member other memberOther same lost
      refine (lost_iff connected entry).mp (named entry member (decide_eq_true ?_))
      exact (missingSomewhere_iff _).mpr ⟨other, memberOther, lost, same.symm⟩
    · intro apart entry member named
      obtain ⟨other, memberOther, lost, same⟩ :=
        (missingSomewhere_iff _).mp (of_decide_eq_true named)
      exact (lost_iff connected entry).mpr (apart entry member other memberOther same.symm lost)
  · intro entry member lost
    refine decide_eq_true ?_
    exact (missingSomewhere_iff _).mpr ⟨entry, member, (lost_iff connected entry).mp lost, rfl⟩

open scoped Classical in
/-- A report that is ok vouches for no loss exactly when there is somebody to
ask and the engines are not mute.  The losses it lists are the keys missing in
the reports of the single engines, entry by entry exactly when no acked write
is printed like a lost one without being lost.  The joint run and the single
ones get the same replies: what an engine answers depends on the command only. -/
theorem verify_sound_split_iff (engines : List SurvivingEngine) (password : Option String)
    (acked : AckedWrites) :
    ((∀ report, verify engines password acked = .ok report → report.ok = true →
        NothingLost engines password acked) ↔
      engines ≠ [] ∧ ¬Mute engines password acked) ∧
    ∀ report, verify engines password acked = .ok report →
      report.ackedLoss.Sublist (acked.entries.map printed) ∧
      (∀ key, key ∈ report.ackedLoss ↔ MissingSomewhere engines password acked key) ∧
      (report.ackedLoss = (acked.entries.map printed).filter
          (fun key => decide (MissingSomewhere engines password acked key)) ↔
        PrintedApart engines password acked) := by
  constructor
  · constructor
    · intro sound
      constructor
      · rintro rfl
        have everybody : Connected [] password [] := rfl
        have ok : (jointReport [] acked).ok = true := (ok_iff everybody).mpr ⟨by simp, by simp⟩
        exact (sound _ (verify_connected everybody) ok).somebody rfl
      · intro mute
        obtain ⟨report, reported, ok⟩ := mute.passes
        obtain ⟨n, alike⟩ := (sound report reported ok).alike
        obtain ⟨engine, member, silent⟩ := mute.mute
        exact silent n (alike engine member)
    · intro ⟨somebody, heard⟩ report reported ok
      exact nothingLost_of_ok somebody heard reported ok
  · intro report reported
    obtain ⟨backends, connected, rfl⟩ := connected_of_verify reported
    obtain ⟨inOrder, keys⟩ := split_by_keys connected
    exact ⟨inOrder, keys, split_by_entries_iff connected⟩

end Report

/-! ### Two survivors that cannot say how much they hold -/

namespace Chaos

def restricted (holds : Bytes × Bytes) : SurvivingEngine where
  connectAuth _ := .ok (fun cmd =>
    if cmd = get holds.1 then .bulk holds.2
    else .error "NOPERM this user has no permissions to run the command")

def write (key value : String) : Bytes × Bytes := (asBytes key, asBytes value)

def onePair : List SurvivingEngine := [restricted (write "k" "v"), restricted (write "k" "v")]

/-- Nobody at all and two engines of unknown size pass, and a key that was acked
twice is lost once and missing twice. -/
theorem unheard_engines_pass :
    verify [] none ⟨[write "k" "v"]⟩ = .ok ⟨0, 1, [], [], true⟩ ∧
      ¬NothingLost [] none ⟨[write "k" "v"]⟩ ∧
      verify onePair none ⟨[write "k" "v"]⟩ = .ok ⟨2, 1, [], [-1, -1], true⟩ ∧
      ¬NothingLost onePair none ⟨[write "k" "v"]⟩ ∧
      verify onePair none ⟨[write "k" "u", write "k" "v"]⟩ = .ok ⟨2, 2, ["k"], [-1, -1], true⟩ ∧
      ¬PrintedApart onePair none ⟨[write "k" "u", write "k" "v"]⟩ := by
  refine ⟨rfl, ?_, by rfl, ?_, by rfl, ?_⟩
  · intro nothingLost
    exact nothingLost.somebody rfl
  · intro nothingLost
    obtain ⟨n, alike⟩ := nothingLost.alike
    obtain ⟨be, connect, said⟩ := alike _ List.mem_cons_self
    cases connect
    cases said
  · intro apart
    have lost : Lost onePair none (write "k" "u") :=
      ⟨_, List.mem_cons_self, .bulk (asBytes "v"), ⟨_, rfl, by rfl⟩, by decide⟩
    obtain ⟨engine, member, reply, ⟨be, connect, said⟩, other⟩ :=
      apart (write "k" "v") (by decide) (write "k" "u") (by decide) rfl lost
    have same : engine = restricted (write "k" "v") := by
      simpa [onePair] using member
    rw [same] at connect
    cases connect
    exact other (said.symm.trans (by rfl))

end Chaos

end TrainsValkey
