import Mathlib.Data.List.Basic

/-
Parsers of a byte stream that arrives in pieces.

A frame parser looks at everything received and not yet consumed and answers
with a frame and its length, with an error, or that it needs more.  When no
answer but the last changes as more bytes arrive, the frames and the end of the
stream do not depend on where the pieces were cut.
-/

set_option autoImplicit false

namespace TrainsValkey.Library

universe u v w

structure FrameParser (Byte : Type u) (Frame : Type v) (Error : Type w) where
  parse : List Byte → Except Error (Option (Frame × Nat))
  consumes : ∀ {input : List Byte} {frame : Frame} {used : Nat},
    parse input = .ok (some (frame, used)) → 0 < used ∧ used ≤ input.length
  settled : ∀ {input : List Byte} (more : List Byte), parse input ≠ .ok none →
    parse (input ++ more) = parse input

/-- The frames of an input, and what ends it: an error, or bytes that wait for
more. -/
@[ext] structure Drained (Byte : Type u) (Frame : Type v) (Error : Type w) where
  frames : List Frame
  left : Except Error (List Byte)

namespace Drained

variable {Byte : Type u} {Frame : Type v} {Error : Type w}

def after (frames : List Frame) (drained : Drained Byte Frame Error) :
    Drained Byte Frame Error :=
  { drained with frames := frames ++ drained.frames }

theorem after_after (first second : List Frame) (drained : Drained Byte Frame Error) :
    (drained.after second).after first = drained.after (first ++ second) := by
  simp only [after, List.append_assoc]

end Drained

namespace FrameParser

variable {Byte : Type u} {Frame : Type v} {Error : Type w} (parser : FrameParser Byte Frame Error)

/-- Take frames off the front until one is missing or malformed. -/
def drainFor : Nat → List Byte → Drained Byte Frame Error
  | 0, input => ⟨[], .ok input⟩
  | turns + 1, input =>
      match parser.parse input with
      | .error e => ⟨[], .error e⟩
      | .ok none => ⟨[], .ok input⟩
      | .ok (some (frame, used)) => (drainFor turns (input.drop used)).after [frame]

/-- Every turn but the last consumes a byte. -/
def drain (input : List Byte) : Drained Byte Frame Error :=
  parser.drainFor (input.length + 1) input

variable {parser}

theorem drainFor_enough {turns : Nat} {input : List Byte} (enough : input.length < turns) :
    parser.drainFor turns input = parser.drain input := by
  suffices same : ∀ other, input.length < other →
      parser.drainFor turns input = parser.drainFor other input from
    same (input.length + 1) (Nat.lt_succ_self _)
  induction turns generalizing input with
  | zero => omega
  | succ turns ih =>
      intro other otherEnough
      obtain ⟨other, rfl⟩ := Nat.exists_eq_succ_of_ne_zero (Nat.ne_of_gt (Nat.zero_lt_of_lt otherEnough))
      rw [drainFor, drainFor]
      cases parsed : parser.parse input with
      | error e => rfl
      | ok answer =>
          cases answer with
          | none => rfl
          | some found =>
              have bounds := parser.consumes parsed
              have shorter := List.length_drop (i := found.2) (l := input)
              simp only
              rw [ih (by omega) other (by omega)]

theorem drain_failed {input : List Byte} {e : Error} (parsed : parser.parse input = .error e) :
    parser.drain input = ⟨[], .error e⟩ := by
  rw [drain, drainFor, parsed]

theorem drain_waiting {input : List Byte} (parsed : parser.parse input = .ok none) :
    parser.drain input = ⟨[], .ok input⟩ := by
  rw [drain, drainFor, parsed]

theorem drain_frame {input : List Byte} {frame : Frame} {used : Nat}
    (parsed : parser.parse input = .ok (some (frame, used))) :
    parser.drain input = (parser.drain (input.drop used)).after [frame] := by
  have bounds := parser.consumes parsed
  rw [drain, drainFor, parsed]
  simp only
  rw [drainFor_enough]
  rw [List.length_drop]
  omega

theorem waiting_of_left {input left : List Byte} (ends : (parser.drain input).left = .ok left) :
    parser.parse left = .ok none := by
  induction size : input.length using Nat.strongRecOn generalizing input with
  | ind size ih =>
      cases parsed : parser.parse input with
      | error e =>
          rw [drain_failed parsed] at ends
          cases ends
      | ok answer =>
          cases answer with
          | none =>
              rw [drain_waiting parsed] at ends
              cases ends
              exact parsed
          | some found =>
              have bounds := parser.consumes parsed
              rw [drain_frame parsed] at ends
              refine ih (input.drop found.2).length ?_ ends rfl
              rw [List.length_drop]
              omega

theorem drain_append (first second : List Byte) :
    parser.drain (first ++ second) =
      match (parser.drain first).left with
      | .error _ => parser.drain first
      | .ok left => (parser.drain (left ++ second)).after (parser.drain first).frames := by
  induction size : first.length using Nat.strongRecOn generalizing first with
  | ind size ih =>
      cases parsed : parser.parse first with
      | error e =>
          have still := parser.settled second (by rw [parsed]; exact fun equal => nomatch equal)
          rw [drain_failed parsed, drain_failed (still.trans parsed)]
      | ok answer =>
          cases answer with
          | none =>
              rw [drain_waiting parsed]
              rfl
          | some found =>
              have bounds := parser.consumes parsed
              have still := parser.settled second (by rw [parsed]; exact fun equal => nomatch equal)
              have later := ih (first.drop found.2).length (by rw [List.length_drop]; omega)
                (first.drop found.2) rfl
              rw [drain_frame parsed, drain_frame (still.trans parsed),
                List.drop_append_of_le_length bounds.2, later]
              cases ends : (parser.drain (first.drop found.2)).left with
              | error e => simp only [Drained.after, ends]
              | ok left => simp only [Drained.after, ends, List.append_assoc]

theorem drain_flatMap {encode : Frame → List Byte} {frames : List Frame}
    (reads : ∀ frame ∈ frames, ∀ rest,
      parser.parse (encode frame ++ rest) = .ok (some (frame, (encode frame).length)))
    (rest : List Byte) :
    parser.drain (frames.flatMap encode ++ rest) = (parser.drain rest).after frames := by
  induction frames with
  | nil => rfl
  | cons frame frames ih =>
      have later := ih (fun other member => reads other (List.mem_cons_of_mem _ member))
      rw [List.flatMap_cons, List.append_assoc,
        drain_frame (reads frame List.mem_cons_self _), List.drop_left, later,
        Drained.after_after]
      rfl

/-! ### Input in pieces -/

variable (parser)

/-- Append each piece to what was left and drain; an error ends the stream. -/
def feedAll : List Byte → List (List Byte) → Drained Byte Frame Error
  | left, [] => ⟨[], .ok left⟩
  | left, piece :: rest =>
      let drained := parser.drain (left ++ piece)
      match drained.left with
      | .error _ => drained
      | .ok left => (feedAll left rest).after drained.frames

variable {parser}

/-- Where the pieces were cut does not matter. -/
theorem feedAll_eq_drain {left : List Byte} (waiting : parser.parse left = .ok none)
    (pieces : List (List Byte)) :
    parser.feedAll left pieces = parser.drain (left ++ pieces.flatten) := by
  induction pieces generalizing left with
  | nil => rw [feedAll, List.flatten_nil, List.append_nil, drain_waiting waiting]
  | cons piece rest ih =>
      rw [feedAll, List.flatten_cons, ← List.append_assoc,
        drain_append (left ++ piece) rest.flatten]
      cases ends : (parser.drain (left ++ piece)).left with
      | error e => rfl
      | ok later =>
          simp only
          rw [ih (waiting_of_left ends)]

end FrameParser

end TrainsValkey.Library
