import TrainsValkey.Library.Listing
import TrainsValkey.LoopbackRing
import TrainsValkey.SurvivorRing

/-
The ring's addresses, as the command line gives them.

Every node is given an entry `ID=ADDR` for every node, in any order.  The
driver looks addresses up by position and positions up by address: to send past
a dead node, and to find out whom a failed connection is to be held against.
-/

set_option autoImplicit false

namespace TrainsValkey

open Std (ExtTreeSet)
open Trains
open Library (Circuit GoesRound byIndex numbered)
open Library.Action (Keeps)

/-! ### The entries -/

inductive RingAddrsError where
  | noPair (entry : String)
  | badId (entry : String)
  | badAddr (entry : String)
  | misplaced (id expected : Nat)

def RingAddrsError.display : RingAddrsError → String
  | .noPair entry => s!"--peer-addr must be 'ID=ADDR', got {entry}"
  | .badId entry => s!"peer id in {entry}"
  | .badAddr entry => s!"peer addr in {entry}"
  | .misplaced id expected =>
      s!"--peer-addr ids must be a contiguous 0..N range; got id {id} at position {expected}"

def splitOnce (separator : Char) (text : List Char) : Option (List Char × List Char) :=
  match text.dropWhile (fun char => char != separator) with
  | [] => none
  | _ :: after => some (text.takeWhile (fun char => char != separator), after)

def parseUsize : List Char → Option Nat
  | '+' :: digits => (digitsValue digits).filter (fun value => value ≤ 18446744073709551615)
  | digits => (digitsValue digits).filter (fun value => value ≤ 18446744073709551615)

section Parse

-- `str::parse::<SocketAddr>`
variable (parseAddr : List Char → Option SocketAddr)

/-- The body of the loop over the entries. -/
def parsePeer (entry : String) : Except RingAddrsError (Nat × SocketAddr) :=
  match splitOnce '=' entry.toList with
  | none => .error (.noPair entry)
  | some (id, addr) =>
      match parseUsize (trim id) with
      | none => .error (.badId entry)
      | some id =>
          match parseAddr (trim addr) with
          | none => .error (.badAddr entry)
          | some addr => .ok (id, addr)

def parsePeers : List String → Except RingAddrsError (List (Nat × SocketAddr))
  | [] => .ok []
  | entry :: entries =>
      match parsePeer parseAddr entry with
      | .error e => .error e
      | .ok pair => (parsePeers entries).map (pair :: ·)

def firstMisplaced (pairs : List (Nat × SocketAddr)) : Option (Nat × Nat) :=
  (pairs.zipIdx.find? (fun placed => placed.1.1 != placed.2)).map
    (fun placed => (placed.1.1, placed.2))

def parseRingAddrs (entries : List String) : Except RingAddrsError (List SocketAddr) :=
  if entries = [] then .ok []
  else
    match parsePeers parseAddr entries with
    | .error e => .error e
    | .ok pairs =>
        match firstMisplaced (byIndex pairs) with
        | some (id, expected) => .error (.misplaced id expected)
        | none => .ok ((byIndex pairs).map Prod.snd)

inductive StartError where
  | peerAddr (error : RingAddrsError)
  | ringLength (length : Nat)

/-- The ring that a node starts with: `main` parses it, and `run_proxy_node`
takes a whole ring or none. -/
def startRing [Trains] (entries : List String) : Except StartError (List SocketAddr) :=
  match parseRingAddrs parseAddr entries with
  | .error e => .error (.peerAddr e)
  | .ok addrs =>
      if addrs ≠ [] ∧ addrs.length ≠ ringSize then .error (.ringLength addrs.length)
      else .ok addrs

/-! ### What is accepted -/

variable {parseAddr}

theorem parsePeers_iff {entries : List String} {pairs : List (Nat × SocketAddr)} :
    parsePeers parseAddr entries = .ok pairs ↔
      entries.map (parsePeer parseAddr) = pairs.map Except.ok := by
  induction entries generalizing pairs with
  | nil =>
      rw [parsePeers, List.map_nil]
      constructor
      · intro same
        cases same
        rfl
      · intro same
        rw [List.map_eq_nil_iff.mp same.symm]
  | cons entry entries ih =>
      rw [parsePeers, List.map_cons]
      cases first : parsePeer parseAddr entry with
      | error e =>
          constructor
          · intro impossible
            cases impossible
          · intro same
            cases pairs with
            | nil => cases same
            | cons pair pairs => cases (List.cons.inj same).1
      | ok pair =>
          cases later : parsePeers parseAddr entries with
          | error e =>
              constructor
              · intro impossible
                cases impossible
              · intro same
                cases pairs with
                | nil => cases same
                | cons pair pairs =>
                    rw [ih.mpr (List.cons.inj same).2] at later
                    cases later
          | ok others =>
              have rest := ih.mp later
              constructor
              · intro same
                cases same
                rw [rest]
                rfl
              · intro same
                rw [rest, ← List.map_cons] at same
                have injective : Function.Injective
                    (Except.ok : Nat × SocketAddr → Except RingAddrsError _) :=
                  fun _ _ => Except.ok.inj
                rw [← List.map_injective_iff.mpr injective same]
                rfl

theorem firstMisplaced_none_iff (pairs : List (Nat × SocketAddr)) :
    firstMisplaced pairs = none ↔ pairs = numbered (pairs.map Prod.snd) := by
  rw [firstMisplaced, Option.map_eq_none_iff, List.find?_eq_none, Library.eq_numbered_iff]
  constructor
  · intro placed place entry found
    have member : (entry, place) ∈ pairs.zipIdx := List.mem_zipIdx_iff_getElem?.mpr found
    simpa using placed _ member
  · rintro placed ⟨entry, place⟩ member
    have found := List.mem_zipIdx_iff_getElem?.mp member
    simpa using placed place entry found

theorem parseRingAddrs_iff {entries : List String} {addrs : List SocketAddr} :
    parseRingAddrs parseAddr entries = .ok addrs ↔
      (entries.map (parsePeer parseAddr)).Perm ((numbered addrs).map Except.ok) := by
  have injective : Function.Injective
      (Except.ok : Nat × SocketAddr → Except RingAddrsError _) := fun _ _ => Except.ok.inj
  unfold parseRingAddrs
  split
  · rename_i empty
    rw [empty, List.map_nil, List.nil_perm, List.map_eq_nil_iff]
    constructor
    · intro same
      cases same
      rfl
    · intro empty
      have length := Library.length_numbered addrs
      rw [empty] at length
      rw [List.length_eq_zero_iff.mp length.symm]
  · cases parsed : parsePeers parseAddr entries with
    | error e =>
        constructor
        · intro impossible
          cases impossible
        · intro perm
          have read : entries.map (parsePeer parseAddr) ∈ Set.range (List.map Except.ok) := by
            rw [Set.range_list_map]
            intro result member
            obtain ⟨pair, _, same⟩ := List.mem_map.mp (perm.mem_iff.mp member)
            exact ⟨pair, same⟩
          obtain ⟨pairs, same⟩ := read
          rw [parsePeers_iff.mpr same.symm] at parsed
          cases parsed
    | ok pairs =>
        rw [parsePeers_iff.mp parsed, List.map_perm_map_iff injective,
          ← Library.byIndex_eq_numbered_iff]
        simp only
        cases misplaced : firstMisplaced (byIndex pairs) with
        | some found =>
            constructor
            · intro impossible
              cases impossible
            · intro sorted
              have placed := (firstMisplaced_none_iff (byIndex pairs)).mpr (by
                rw [sorted, Library.values_numbered])
              rw [placed] at misplaced
              cases misplaced
        | none =>
            have placed := (firstMisplaced_none_iff (byIndex pairs)).mp misplaced
            constructor
            · intro same
              cases same
              exact placed
            · intro sorted
              rw [sorted, Library.values_numbered]

theorem startRing_iff [Trains] {entries : List String} {addrs : List SocketAddr} :
    startRing parseAddr entries = .ok addrs ↔
      (addrs = [] ∨ addrs.length = ringSize) ∧
        (entries.map (parsePeer parseAddr)).Perm ((numbered addrs).map Except.ok) := by
  rw [← parseRingAddrs_iff, startRing]
  cases parsed : parseRingAddrs parseAddr entries with
  | error e =>
      constructor
      · intro impossible
        cases impossible
      · rintro ⟨_, impossible⟩
        cases impossible
  | ok ring =>
      simp only
      split
      · rename_i wrong
        constructor
        · intro impossible
          cases impossible
        · rintro ⟨whole, same⟩
          cases same
          rcases whole with empty | length
          · exact absurd empty wrong.1
          · exact absurd length wrong.2
      · rename_i right
        constructor
        · intro same
          cases same
          refine ⟨?_, rfl⟩
          by_cases empty : addrs = []
          · exact .inl empty
          · exact .inr (by_contra (fun short => right ⟨empty, short⟩))
        · rintro ⟨_, same⟩
          cases same
          rfl

theorem startRing_perm [Trains] {entries entries' : List String} (same : entries.Perm entries')
    {addrs : List SocketAddr} (started : startRing parseAddr entries = .ok addrs) :
    startRing parseAddr entries' = .ok addrs := by
  obtain ⟨whole, perm⟩ := startRing_iff.mp started
  exact startRing_iff.mpr ⟨whole, (same.symm.map _).trans perm⟩

theorem startRing_given [Trains] {entries : List String} {addrs : List SocketAddr}
    (started : startRing parseAddr entries = .ok addrs) (id : Nat) (addr : SocketAddr) :
    addrs[id]? = some addr ↔ ∃ entry ∈ entries, parsePeer parseAddr entry = .ok (id, addr) := by
  obtain ⟨_, perm⟩ := startRing_iff.mp started
  have given := perm.mem_iff (a := .ok (id, addr))
  rw [← Library.mem_numbered]
  constructor
  · intro here
    obtain ⟨entry, member, parsed⟩ :=
      List.mem_map.mp (given.mpr (List.mem_map_of_mem (f := Except.ok) here))
    exact ⟨entry, member, parsed⟩
  · rintro ⟨entry, member, parsed⟩
    obtain ⟨pair, here, same⟩ := List.mem_map.mp (given.mp (List.mem_map.mpr ⟨entry, member, parsed⟩))
    rw [← Except.ok.inj same]
    exact here

end Parse

/-! ### Whom an address stands for -/

theorem findIdx_addr {addrs : List SocketAddr} (distinct : addrs.Nodup) {id : Nat}
    {addr : SocketAddr} (here : addrs[id]? = some addr) :
    addrs.findIdx? (fun a => a = addr) = some id := by
  obtain ⟨bound, same⟩ := List.getElem?_eq_some_iff.mp here
  rw [List.findIdx?_eq_some_iff_getElem]
  refine ⟨bound, decide_eq_true same, ?_⟩
  intro earlier less found
  have twice := (distinct.getElem_inj_iff).mp ((of_decide_eq_true found).trans same.symm)
  omega

theorem nodup_iff_findIdx (addrs : List SocketAddr) :
    addrs.Nodup ↔ ∀ (id : Nat) (addr : SocketAddr), addrs[id]? = some addr →
      addrs.findIdx? (fun a => a = addr) = some id := by
  constructor
  · intro distinct id addr here
    exact findIdx_addr distinct here
  · intro found
    rw [List.nodup_iff_injective_getElem]
    intro first second same
    change addrs[first] = addrs[second] at same
    have one := found first addrs[first] (List.getElem?_eq_getElem first.2)
    have other := found second addrs[second] (List.getElem?_eq_getElem second.2)
    rw [← same, one] at other
    exact Fin.ext (Option.some.inj other)

/-! ### The nodes of a ring -/

def hop (addrs : List SocketAddr) (dead : ExtTreeSet Nat) (from_ : Option SocketAddr) :
    Option SocketAddr :=
  (from_.bind (fun addr => addrs.findIdx? (fun a => a = addr))).bind
    (fun v => addrs[nextAlive v addrs.length dead]?)

theorem hop_getElem? {addrs : List SocketAddr} (distinct : addrs.Nodup) (dead : ExtTreeSet Nat)
    {v : Nat} (within : v < addrs.length) :
    hop addrs dead addrs[v]? = addrs[nextAlive v addrs.length dead]? := by
  have here := List.getElem?_eq_getElem within
  rw [hop, here, Option.bind_some, findIdx_addr distinct here, Option.bind_some]

section Ring

variable [Trains] {parseAddr : List Char → Option SocketAddr}

/-- Nodes given the same entries, each in an order of its own, all refuse to
start or all start with one ring, which has every address at its id.  A failed
connection is then held against the node it is given for, for all of them, when
and only when no address is given twice. -/
theorem rings_alike {given : ProcId → List String} {entries : List String}
    (same : ∀ v, (given v).Perm entries) :
    (∀ v, ∃ e, startRing parseAddr (given v) = .error e) ∨
    ∃ addrs, (∀ v, startRing parseAddr (given v) = .ok addrs) ∧
      (entries ≠ [] → addrs.length = ringSize) ∧
      (∀ (id : Nat) (addr : SocketAddr), addrs[id]? = some addr ↔
        ∃ entry ∈ entries, parsePeer parseAddr entry = .ok (id, addr)) ∧
      (addrs.Nodup ↔ ∀ (id : Nat) (addr : SocketAddr),
        (∃ entry ∈ entries, parsePeer parseAddr entry = .ok (id, addr)) →
          addrs.findIdx? (fun a => a = addr) = some id) := by
  cases started : startRing parseAddr entries with
  | error e =>
      left
      intro v
      cases other : startRing parseAddr (given v) with
      | error e => exact ⟨e, rfl⟩
      | ok addrs =>
          rw [startRing_perm (same v) other] at started
          cases started
  | ok addrs =>
      right
      have belongs := startRing_given started
      refine ⟨addrs, fun v => startRing_perm (same v).symm started, ?_, belongs, ?_⟩
      · intro some_
        obtain ⟨empty | whole, perm⟩ := startRing_iff.mp started
        · rw [empty] at perm
          exact absurd (List.map_eq_nil_iff.mp (List.perm_nil.mp perm)) some_
        · exact whole
      · rw [nodup_iff_findIdx]
        constructor
        · intro found id addr given_
          exact found id addr ((belongs id addr).mpr given_)
        · intro found id addr here
          exact found id addr ((belongs id addr).mp here)

/-- The nodes of a ring, as they were started: the same entries for all, and
`--successor` the address of the node after. -/
structure RingMembers (parseAddr : List Char → Option SocketAddr) where
  entries : List String
  named : entries ≠ []
  given : Fin ringSize → List String
  same : ∀ v, (given v).Perm entries
  cfg : Fin ringSize → DriverCfg
  own : ∀ v, (cfg v).id = v.val
  started : ∀ v, startRing parseAddr (given v) = .ok (cfg v).ringAddrs
  successor : Fin ringSize → SocketAddr
  follows : ∀ v, ∃ entry ∈ entries,
    parsePeer parseAddr entry = .ok ((v.val + 1) % ringSize, successor v)

namespace RingMembers

variable (members : RingMembers parseAddr)

def Gives (id : Nat) (addr : SocketAddr) : Prop :=
  ∃ entry ∈ members.entries, parsePeer parseAddr entry = .ok (id, addr)

theorem ringAddrs_iff (v : Fin ringSize) (id : Nat) (addr : SocketAddr) :
    (members.cfg v).ringAddrs[id]? = some addr ↔ members.Gives id addr :=
  startRing_given (startRing_perm (members.same v) (members.started v)) id addr

theorem ringAddrs_eq (v w : Fin ringSize) :
    (members.cfg v).ringAddrs = (members.cfg w).ringAddrs := by
  apply List.ext_getElem?
  intro id
  apply Option.ext
  intro addr
  rw [members.ringAddrs_iff, members.ringAddrs_iff]

theorem length_ringAddrs (v : Fin ringSize) : (members.cfg v).ringAddrs.length = ringSize := by
  obtain ⟨empty | whole, perm⟩ := startRing_iff.mp (members.started v)
  · rw [empty] at perm
    have nothing := List.map_eq_nil_iff.mp (List.perm_nil.mp perm)
    have same := members.same v
    rw [nothing] at same
    exact absurd (List.nil_perm.mp same) members.named
  · exact whole

/-- A transport that starts with `--successor` starts where the driver takes it
to point. -/
theorem aimed (v : Fin ringSize) (trace : List Event) :
    trace.foldl Event.aim (some (members.successor v)) =
      transportTarget (members.cfg v) trace := by
  have first : (members.cfg v).ringAddrs[((members.cfg v).id + 1) % (members.cfg v).n]? =
      some (members.successor v) := by
    rw [members.own, DriverCfg.n_eq, members.ringAddrs_iff]
    exact members.follows v
  rw [transportTarget, first]

theorem nodup_of_apart (apart : ∀ first second addr, members.Gives first addr →
    members.Gives second addr → first = second) (v : Fin ringSize) :
    (members.cfg v).ringAddrs.Nodup := by
  rw [List.nodup_iff_injective_getElem]
  intro first second same
  change (members.cfg v).ringAddrs[first.val] = (members.cfg v).ringAddrs[second.val] at same
  have one := (members.ringAddrs_iff v first _).mp (List.getElem?_eq_getElem first.2)
  have other := (members.ringAddrs_iff v second _).mp (List.getElem?_eq_getElem second.2)
  rw [← same] at other
  exact Fin.ext (apart first second _ one other)

end RingMembers

section Runs

variable {σ : Type} [RedisStore σ] [Bincode WriteOp] [FloatArith]
  [AlwaysSerializable DeliveredEntry] [AlwaysSerializable ReplicaSnapshot]

/-- After any runs of the drivers that leave the survivors with one view, the
addresses their transports point to lead from survivor to survivor, through all
of them once, and back. -/
theorem transports_go_round (members : RingMembers parseAddr)
    (apart : ∀ first second addr, members.Gives first addr →
      members.Gives second addr → first = second)
    (store : Fin ringSize → σ) {promote : Fin ringSize → Option PromoteSeed}
    (starts : ∀ v, StartsAtSuccessor (members.cfg v) (promote v))
    (inputs : Fin ringSize → List DriverInput) {dead : ExtTreeSet Nat}
    (agreed : ∀ v : Fin ringSize, dead.contains v.val = false →
      (driverLoop (members.cfg v) (store v) (promote v) (inputs v)).1.dead = dead) :
    ∃ addrs : List SocketAddr,
      (∀ id addr, addrs[id]? = some addr ↔ members.Gives id addr) ∧
      ∀ v : Fin ringSize, dead.contains v.val = false →
        (driverLoop (members.cfg v) (store v) (promote v) (inputs v)).2.foldl Event.aim
            (some (members.successor v)) = hop addrs dead addrs[v.val]? ∧
          GoesRound ((liveNodes ringSize dead).image (fun id => addrs[id]?)) (hop addrs dead)
            addrs[v.val]? := by
  have positive := ringSizePositive
  obtain ⟨addrs, ring⟩ : ∃ addrs, ∀ v, (members.cfg v).ringAddrs = addrs :=
    ⟨_, fun v => members.ringAddrs_eq v ⟨0, positive⟩⟩
  have given := members.ringAddrs_iff ⟨0, positive⟩
  have distinct := members.nodup_of_apart apart ⟨0, positive⟩
  have length := members.length_ringAddrs ⟨0, positive⟩
  rw [ring] at given distinct length
  have hops (v : Nat) (within : v < ringSize) :
      hop addrs dead addrs[v]? = addrs[nextAlive v ringSize dead]? := by
    rw [← length] at within ⊢
    exact hop_getElem? distinct dead within
  refine ⟨addrs, given, fun v live => ⟨?_, ?_⟩⟩
  · have targeted : Targeted (members.cfg v)
        (driverLoop (members.cfg v) (store v) (promote v) (inputs v)).1
        (driverLoop (members.cfg v) (store v) (promote v) (inputs v)).2 :=
      Keeps.run driverStep_keeps (inputs v) _ _
        (driverInit_targeted (members.cfg v) (store v) (starts v))
    have succ := targeted.succ
    have target := targeted.target
    rw [agreed v live, members.own, DriverCfg.n_eq] at succ
    rw [members.aimed, hops v v.isLt, ← succ]
    rw [ring] at target
    exact target
  · have circuit : Circuit ((liveNodes ringSize dead).image (fun id => addrs[id]?))
        (hop addrs dead) := by
      apply (nextAlive_circuit ringSize dead).image
      intro id member
      exact hops id ((mem_liveNodes id).mp member).1
    apply circuit.goesRound
    apply Finset.mem_image_of_mem (fun id => addrs[id]?)
    exact (mem_liveNodes v.val).mpr ⟨v.isLt, live⟩

end Runs

end Ring

/-! ### Three nodes -/

section Sample

open scoped LoopbackRing

def octet (text : List Char) : Option Nat := (digitsValue text).filter (fun value => value ≤ 255)

def parseV4 (text : List Char) : Option SocketAddr :=
  match splitOnce ':' text with
  | none => none
  | some (ip, port) =>
      match (ip.splitOn '.').mapM octet,
          (digitsValue port).filter (fun value => value ≤ 65535) with
      | some [a, b, c, d], some port => some ⟨((a * 256 + b) * 256 + c) * 256 + d, port⟩
      | _, _ => none

def peerEntries : List String := ["1=0.0.0.0:7001", " 2 = 0.0.0.0:7002", "0=0.0.0.0:7000"]

theorem rotated_started (v : Fin 3) :
    startRing parseV4 (peerEntries.rotate v) = .ok [⟨0, 7000⟩, ⟨0, 7001⟩, ⟨0, 7002⟩] := by
  have sorted : (numbered [⟨0, 7000⟩, ⟨0, 7001⟩, ⟨0, 7002⟩]).map Except.ok =
      (peerEntries.map (parsePeer parseV4)).rotate 2 := rfl
  apply startRing_iff.mpr
  constructor
  · exact .inr rfl
  · rw [sorted]
    exact ((List.rotate_perm peerEntries v).map _).trans (List.rotate_perm _ 2).symm

theorem rotated_alike :
    (∀ v : ProcId, ∃ e, startRing parseV4 (peerEntries.rotate v) = .error e) ∨
    ∃ addrs, (∀ v : ProcId, startRing parseV4 (peerEntries.rotate v) = .ok addrs) ∧
      (peerEntries ≠ [] → addrs.length = ringSize) ∧
      (∀ (id : Nat) (addr : SocketAddr), addrs[id]? = some addr ↔
        ∃ entry ∈ peerEntries, parsePeer parseV4 entry = .ok (id, addr)) ∧
      (addrs.Nodup ↔ ∀ (id : Nat) (addr : SocketAddr),
        (∃ entry ∈ peerEntries, parsePeer parseV4 entry = .ok (id, addr)) →
          addrs.findIdx? (fun a => a = addr) = some id) :=
  rings_alike (fun v => List.rotate_perm peerEntries v)

theorem rotated_follows (v : Fin 3) : ∃ entry ∈ peerEntries,
    parsePeer parseV4 entry = .ok ((v.val + 1) % 3, ⟨0, 7000 + (v.val + 1) % 3⟩) := by
  match v with
  | 0 => exact ⟨"1=0.0.0.0:7001", by simp [peerEntries], rfl⟩
  | 1 => exact ⟨" 2 = 0.0.0.0:7002", by simp [peerEntries], rfl⟩
  | 2 => exact ⟨"0=0.0.0.0:7000", by simp [peerEntries], rfl⟩

def rotatedMembers : RingMembers parseV4 :=
  { entries := peerEntries
    named := List.cons_ne_nil _ _
    given := fun v => peerEntries.rotate v
    same := fun v => List.rotate_perm peerEntries v
    cfg := fun v => LoopbackRing.ringCfg v v.isLt
    own := fun _ => rfl
    started := rotated_started
    successor := fun v => ⟨0, 7000 + (v.val + 1) % 3⟩
    follows := rotated_follows }

theorem rotatedMembers_gives {id : Nat} {addr : SocketAddr} (gives : rotatedMembers.Gives id addr) :
    addr = ⟨0, 7000 + id⟩ := by
  have here := (rotatedMembers.ringAddrs_iff (0 : Fin 3) id addr).mpr gives
  match id with
  | 0 => exact (Option.some.inj here).symm
  | 1 => exact (Option.some.inj here).symm
  | 2 => exact (Option.some.inj here).symm
  | _ + 3 => cases here

def crashInputs (v : Fin 3) : List DriverInput := if v = 1 then [] else [.confirmCrash 1]

theorem rotatedMembers_go_round :
    ∃ addrs : List SocketAddr,
      (∀ id addr, addrs[id]? = some addr ↔ rotatedMembers.Gives id addr) ∧
      ∀ v : Fin ringSize, (ExtTreeSet.ofList [1]).contains v.val = false →
        (driverLoop (rotatedMembers.cfg v) MemStore.new none (crashInputs v)).2.foldl Event.aim
            (some (rotatedMembers.successor v)) = hop addrs (.ofList [1]) addrs[v.val]? ∧
          GoesRound ((liveNodes ringSize (.ofList [1])).image (fun id => addrs[id]?))
            (hop addrs (.ofList [1])) addrs[v.val]? := by
  have apart : ∀ first second addr, rotatedMembers.Gives first addr →
      rotatedMembers.Gives second addr → first = second := by
    intro first second addr one other
    have same := (rotatedMembers_gives one).symm.trans (rotatedMembers_gives other)
    have ports := congrArg SocketAddr.port same
    simpa using ports
  have agreed : ∀ v : Fin 3, (ExtTreeSet.ofList [1]).contains v.val = false →
      (driverLoop (rotatedMembers.cfg v) MemStore.new none (crashInputs v)).1.dead =
        .ofList [1] := by
    intro v live
    match v with
    | 0 => rfl
    | 1 => exact absurd live (by decide)
    | 2 => rfl
  have starts : ∀ v : Fin 3, StartsAtSuccessor (rotatedMembers.cfg v) none :=
    fun _ => True.intro
  exact transports_go_round rotatedMembers apart (fun _ => MemStore.new) starts crashInputs agreed

end Sample

end TrainsValkey
