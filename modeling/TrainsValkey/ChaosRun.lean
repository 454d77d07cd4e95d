import Mathlib
import TrainsValkey.LoadDriver

/-
The chaos binary: one process that loads and verifies, or a load phase that
writes a file and one verifier for each survivor that reads it.

The load runs in two phases around the hold in which the fault is injected.
What the proxy makes of each write, and what opening the two connections comes
to, are inputs; so is the JSON printer and parser behind the file.  Failures to
create, open or write a file, or to write the report, are left out.
-/

set_option autoImplicit false

namespace TrainsValkey

/-! ### The file of acked writes -/

/-- `serde_json` on a vector of pairs of strings. -/
structure SerdeJson where
  print : List (String × String) → String
  parse : String → Except String (List (String × String))

namespace AckedWrites

def extend (acked other : AckedWrites) : AckedWrites := ⟨acked.entries ++ other.entries⟩

/-- `String::from_utf8`. -/
def stringOf (bytes : Bytes) : Except ErrorKind String :=
  match fromUtf8 bytes with
  | some text => .ok (String.ofList text)
  | none => .error .invalidData

def viewEntry (entry : Bytes × Bytes) : Except ErrorKind (String × String) := do
  let key ← stringOf entry.1
  let val ← stringOf entry.2
  return (key, val)

def view (acked : AckedWrites) : Except ErrorKind (List (String × String)) :=
  acked.entries.mapM viewEntry

def writeJson (json : SerdeJson) (acked : AckedWrites) : Except ErrorKind Bytes := do
  let view ← acked.view
  return asBytes (json.print view ++ "\n")

def readJson (json : SerdeJson) (file : Bytes) : Except ErrorKind AckedWrites := do
  let buf ← stringOf file
  match json.parse buf with
  | .ok view => return ⟨view.map (fun entry => (asBytes entry.1, asBytes entry.2))⟩
  | .error _ => throw .invalidData

theorem stringOf_asBytes (text : String) : stringOf (asBytes text) = .ok text := by
  rw [stringOf, fromUtf8_asBytes]
  exact congrArg Except.ok (String.ofList_toList)

theorem view_strings (view : List (String × String)) :
    AckedWrites.view ⟨view.map (fun entry => (asBytes entry.1, asBytes entry.2))⟩ = .ok view := by
  rw [AckedWrites.view, mapM_ok_iff, List.map_map]
  apply List.map_congr_left
  intro entry _
  rw [Function.comp_apply, viewEntry, stringOf_asBytes, stringOf_asBytes]
  rfl

/-- What is written is read back, whatever the texts, if the parser takes back
what was printed for them. -/
theorem readJson_writeJson (json : SerdeJson) (view : List (String × String))
    (readBack : json.parse (json.print view ++ "\n") = .ok view) :
    ∃ file,
      writeJson json ⟨view.map (fun entry => (asBytes entry.1, asBytes entry.2))⟩ = .ok file ∧
        readJson json file =
          .ok ⟨view.map (fun entry => (asBytes entry.1, asBytes entry.2))⟩ := by
  refine ⟨asBytes (json.print view ++ "\n"), ?_, ?_⟩
  · rw [writeJson, view_strings]
    rfl
  · rw [readJson, stringOf_asBytes]
    change (match json.parse (json.print view ++ "\n") with
      | .ok view => _
      | .error _ => _) = _
    rw [readBack]
    rfl

end AckedWrites

/-! ### The phases of a run -/

namespace Chaos

structure Cli where
  pre : String
  count : Nat
  abandonSecs : Nat

/-- `0` blocks forever.  Waits are counted in milliseconds. -/
def Cli.abandon (cli : Cli) : Option Nat :=
  if 0 < cli.abandonSecs then some (1000 * cli.abandonSecs) else none

structure Phases where
  fates : Nat → Fate
  firstConnect : Option ErrorKind
  secondConnect : Option ErrorKind

inductive Driven where
  | acked (acked : AckedWrites)
  | failed (context : String) (kind : ErrorKind)
  | waits

structure Drive where
  attempts : List Attempt
  driven : Driven

def driveLoad (cli : Cli) (phases : Phases) : Drive :=
  let half := cli.count / 2
  let first := Load.runLoad cli.pre cli.abandon phases.fates 0 half phases.firstConnect
  match first.outcome with
  | .failed kind => { attempts := first.attempts, driven := .failed "load phase 1" kind }
  | .waits => { attempts := first.attempts, driven := .waits }
  | .ok acked =>
      let second := Load.runLoad cli.pre cli.abandon phases.fates half cli.count
        phases.secondConnect
      { attempts := first.attempts ++ second.attempts
        driven :=
          match second.outcome with
          | .failed kind => .failed "load phase 2" kind
          | .waits => .waits
          | .ok phase2 => .acked (acked.extend phase2) }

/-- How the process ends: with a status, with an error that `main` returns, or
not at all. -/
inductive Exit where
  | status (code : Nat)
  | error (context : String)
  | hangs
deriving DecidableEq

def runFull (cli : Cli) (phases : Phases) (engines : List SurvivingEngine)
    (password : Option String) : Exit :=
  match (driveLoad cli phases).driven with
  | .failed context _ => .error context
  | .waits => .hangs
  | .acked acked =>
      if engines.isEmpty then .error "--engines required in full mode"
      else
        match verify engines password acked with
        | .error _ => .error "verify"
        | .ok report => .status (if report.ok then 0 else 1)

def runLoadPhase (json : SerdeJson) (cli : Cli) (phases : Phases) : Exit × Option Bytes :=
  match (driveLoad cli phases).driven with
  | .failed context _ => (.error context, none)
  | .waits => (.hangs, none)
  | .acked acked =>
      match acked.writeJson json with
      | .error _ => (.error "serialize acked set", none)
      | .ok file => (.status 0, some file)

def runVerifyLocal (json : SerdeJson) (engine : SurvivingEngine) (password : Option String)
    (label : String) (file : Bytes) : Exit × Option PartialReport :=
  match AckedWrites.readJson json file with
  | .error _ => (.error "deserialize acked set", none)
  | .ok acked =>
      match verifyOne engine password label acked with
      | .error _ => (.error "verify_one", none)
      | .ok report => (.status (if report.missingKeys.isEmpty then 0 else 2), some report)

/-! ### What the load covers -/

theorem runLoad_complete {pre : String} {abandon : Option Nat} {fates : Nat → Fate}
    {start stop : Nat} {connectError : Option ErrorKind} {acked : AckedWrites}
    (returned : (Load.runLoad pre abandon fates start stop connectError).outcome = .ok acked) :
    Load.Complete pre abandon fates (List.range' start (stop - start)) ⟨[]⟩ acked
      (Load.runLoad pre abandon fates start stop connectError).attempts := by
  unfold Load.runLoad at returned ⊢
  cases connects : LoadConn.connect abandon connectError with
  | error kind =>
      rw [connects] at returned
      cases returned
  | ok conn =>
      simp only [connects] at returned ⊢
      exact Load.runFrom_complete _ (Load.connect_aligned connects) returned

/-- A load that comes back has tried every write of the run once, in order,
each over a connection with nothing left of another. -/
theorem driveLoad_complete {cli : Cli} {phases : Phases} {acked : AckedWrites}
    (driven : (driveLoad cli phases).driven = .acked acked) :
    Load.Complete cli.pre cli.abandon phases.fates (List.range cli.count) ⟨[]⟩ acked
      (driveLoad cli phases).attempts := by
  unfold driveLoad at driven ⊢
  simp only at driven ⊢
  cases first : (Load.runLoad cli.pre cli.abandon phases.fates 0 (cli.count / 2)
      phases.firstConnect).outcome with
  | failed kind =>
      rw [first] at driven
      cases driven
  | waits =>
      rw [first] at driven
      cases driven
  | ok phase1 =>
      cases second : (Load.runLoad cli.pre cli.abandon phases.fates (cli.count / 2) cli.count
          phases.secondConnect).outcome with
      | failed kind =>
          rw [first, second] at driven
          cases driven
      | waits =>
          rw [first, second] at driven
          cases driven
      | ok phase2 =>
          rw [first, second] at driven
          cases driven
          have early := runLoad_complete first
          have late := runLoad_complete second
          have half : cli.count / 2 ≤ cli.count := Nat.div_le_self _ _
          have whole : List.range cli.count = List.range' 0 (cli.count / 2 - 0) ++
              List.range' (cli.count / 2) (cli.count - cli.count / 2) := by
            rw [List.range_eq_range', Nat.sub_zero]
            have joined := List.range'_append_1 (s := 0) (m := cli.count / 2)
              (n := cli.count - cli.count / 2)
            rw [Nat.zero_add, Nat.add_sub_cancel' half] at joined
            exact joined.symm
          constructor
          · rw [List.map_append, early.tried, late.tried, whole]
          · intro attempt member
            rcases List.mem_append.mp member with inFirst | inSecond
            · exact early.fate attempt inFirst
            · exact late.fate attempt inSecond
          · intro attempt member
            rcases List.mem_append.mp member with inFirst | inSecond
            · exact early.aligned attempt inFirst
            · exact late.aligned attempt inSecond
          · change phase1.entries ++ phase2.entries = _
            rw [early.entries, late.entries, List.filter_append, List.map_append]
            rfl

def texts (pre : String) (index : Nat) : String × String := (s!"{pre}{index}", s!"v{index}")

theorem acked_texts {cli : Cli} {phases : Phases} {acked : AckedWrites}
    (driven : (driveLoad cli phases).driven = .acked acked) :
    ∃ view : List (String × String),
      acked = ⟨view.map (fun entry => (asBytes entry.1, asBytes entry.2))⟩ := by
  have complete := driveLoad_complete driven
  refine ⟨((driveLoad cli phases).attempts.filter (Attempt.recorded cli.abandon)).map
    (fun attempt => texts cli.pre attempt.index), ?_⟩
  have entries := complete.entries
  rw [List.nil_append] at entries
  rw [List.map_map]
  cases acked
  exact congrArg AckedWrites.mk entries

/-! ### The split run -/

theorem runVerifyLocal_read {json : SerdeJson} {engine : SurvivingEngine}
    {password : Option String} {file : Bytes} {acked : AckedWrites}
    (read : AckedWrites.readJson json file = .ok acked) (label : String) (report : PartialReport) :
    runVerifyLocal json engine password label file = (.status 0, some report) ↔
      verifyOne engine password label acked = .ok report ∧ report.missingKeys = [] := by
  unfold runVerifyLocal
  simp only [read]
  cases verified : verifyOne engine password label acked with
  | error e => simp
  | ok made =>
      simp only [Prod.mk.injEq, Exit.status.injEq, Option.some.injEq, Except.ok.injEq]
      constructor
      · intro ⟨code, same⟩
        subst same
        refine ⟨rfl, ?_⟩
        by_contra missing
        rw [if_neg (by simpa using missing)] at code
        cases code
      · intro ⟨same, none_⟩
        subst same
        rw [none_]
        exact ⟨rfl, rfl⟩

theorem runFull_status_iff {cli : Cli} {phases : Phases} {acked : AckedWrites}
    (driven : (driveLoad cli phases).driven = .acked acked) (engines : List SurvivingEngine)
    (password : Option String) :
    runFull cli phases engines password = .status 0 ↔
      engines ≠ [] ∧ ∃ report, verify engines password acked = .ok report ∧ report.ok = true := by
  unfold runFull
  rw [driven]
  cases engines with
  | nil => simp
  | cons first rest =>
      simp only [List.isEmpty_cons, Bool.false_eq_true, if_false, ne_eq, reduceCtorEq,
        not_false_eq_true, true_and]
      cases verified : verify (first :: rest) password acked with
      | error e => simp
      | ok report =>
          simp only [Except.ok.injEq, exists_eq_left', Exit.status.injEq]
          constructor
          · intro code
            by_contra failed
            rw [if_neg failed] at code
            cases code
          · intro ok
            rw [if_pos ok]

/-- The split run agrees with the single process: the load phase writes its
file, and the single process passes exactly when every survivor's verifier
passes on that file and all of them report keyspaces of one size. -/
theorem split_run_passes_iff (json : SerdeJson) (cli : Cli) (phases : Phases)
    (engines : List SurvivingEngine) (password : Option String) (label : SurvivingEngine → String)
    (acked : AckedWrites) (driven : (driveLoad cli phases).driven = .acked acked)
    (readBack : ∀ view, acked.view = .ok view → json.parse (json.print view ++ "\n") = .ok view) :
    ∃ file, runLoadPhase json cli phases = (.status 0, some file) ∧
      (runFull cli phases engines password = .status 0 ↔
        engines ≠ [] ∧ ∃ size, ∀ engine ∈ engines, ∃ report,
          runVerifyLocal json engine password (label engine) file = (.status 0, some report) ∧
            report.dbsize = size) := by
  obtain ⟨view, texts⟩ := acked_texts driven
  have printed := readBack view (by rw [texts]; exact AckedWrites.view_strings view)
  obtain ⟨file, written, read⟩ := AckedWrites.readJson_writeJson json view printed
  rw [← texts] at written read
  refine ⟨file, ?_, ?_⟩
  · rw [runLoadPhase, driven]
    simp only [written]
  · rw [runFull_status_iff driven]
    simp only [runVerifyLocal_read read]
    refine and_congr_right (fun somebody => ?_)
    constructor
    · intro ⟨report, reported, ok⟩
      obtain ⟨backends, connected, rfl⟩ := connected_of_verify reported
      obtain ⟨kept, alike⟩ := (ok_iff connected).mp ok
      obtain ⟨first, memberFirst⟩ := List.exists_mem_of_ne_nil engines somebody
      obtain ⟨be, memberBe, _⟩ := connected.backend memberFirst
      refine ⟨answeredSize be, ?_⟩
      intro engine member
      obtain ⟨other, memberOther, connects⟩ := connected.backend member
      refine ⟨_, ⟨verifyOne_ok_iff.mpr ⟨other, connects, rfl⟩, ?_⟩, alike other memberOther be
        memberBe⟩
      rw [List.map_eq_nil_iff, List.filter_eq_nil_iff]
      intro entry memberEntry
      have keeps := (SurvivingEngine.keeps_iff connects).mpr
        (kept engine member entry memberEntry)
      simp [keeps]
    · intro ⟨size, each⟩
      have reachable : ∀ engine ∈ engines, ∃ be, engine.connectAuth password = .ok be := by
        intro engine member
        obtain ⟨report, ⟨made, _⟩, _⟩ := each engine member
        obtain ⟨be, connects, _⟩ := verifyOne_ok_iff.mp made
        exact ⟨be, connects⟩
      obtain ⟨backends, connected⟩ := connected_of_each reachable
      refine ⟨_, verify_connected connected, (ok_iff connected).mpr ⟨?_, ?_⟩⟩
      · intro engine member entry memberEntry
        obtain ⟨report, ⟨made, nothing⟩, _⟩ := each engine member
        obtain ⟨be, connects, rfl⟩ := verifyOne_ok_iff.mp made
        rw [List.map_eq_nil_iff, List.filter_eq_nil_iff] at nothing
        apply (SurvivingEngine.keeps_iff connects).mp
        have kept := nothing entry memberEntry
        simpa using kept
      · have sized : ∀ be ∈ backends, answeredSize be = size := by
          intro be memberBe
          obtain ⟨engine, member, connects⟩ := connected.engine memberBe
          obtain ⟨report, ⟨made, _⟩, same⟩ := each engine member
          obtain ⟨other, connectsOther, rfl⟩ := verifyOne_ok_iff.mp made
          rw [connects] at connectsOther
          cases connectsOther
          exact same
        intro be memberBe other memberOther
        rw [sized be memberBe, sized other memberOther]

/-! ### A run whose second write is lost -/

section Sample

def someLost : Cli := { pre := "k", count := 3, abandonSecs := 5 }

def someLostPhases : Phases :=
  { fates := Load.someSilent, firstConnect := none, secondConnect := none }

def someLostAcked : AckedWrites := ⟨[Load.entry "k" 0, Load.entry "k" 2]⟩

def plainJson : SerdeJson where
  print view :=
    "[" ++ ",".intercalate (view.map (fun entry =>
      "[\"" ++ entry.1 ++ "\",\"" ++ entry.2 ++ "\"]")) ++ "]"
  parse text :=
    if text = "[[\"k0\",\"v0\"],[\"k2\",\"v2\"]]\n" then
      .ok [("k0", "v0"), ("k2", "v2")]
    else .error "expected value"

def fullSurvivor : SurvivingEngine where
  connectAuth _ := .ok (fun cmd =>
    if cmd = dbsize then .integer 3
    else if cmd = get (asBytes "k0") then .bulk (asBytes "v0")
    else if cmd = get (asBytes "k2") then .bulk (asBytes "v2")
    else .nil)

theorem someLost_driven : (driveLoad someLost someLostPhases).driven = .acked someLostAcked := by
  rfl

theorem split_run_passes_iff_someLost :
    ∃ file, runLoadPhase plainJson someLost someLostPhases = (.status 0, some file) ∧
      (runFull someLost someLostPhases [fullSurvivor, fullSurvivor] none = .status 0 ↔
        [fullSurvivor, fullSurvivor] ≠ [] ∧ ∃ size,
          ∀ engine ∈ [fullSurvivor, fullSurvivor], ∃ report,
            runVerifyLocal plainJson engine none "node-1" file = (.status 0, some report) ∧
              report.dbsize = size) := by
  refine split_run_passes_iff plainJson someLost someLostPhases [fullSurvivor, fullSurvivor] none
    (fun _ => "node-1") someLostAcked someLost_driven ?_
  intro view viewed
  have texts : someLostAcked.view = .ok [("k0", "v0"), ("k2", "v2")] :=
    AckedWrites.view_strings [("k0", "v0"), ("k2", "v2")]
  rw [texts] at viewed
  cases viewed
  rfl

end Sample

end Chaos

end TrainsValkey
