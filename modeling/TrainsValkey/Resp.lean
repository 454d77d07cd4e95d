import TrainsValkey.Text

/-
The reply value tree of the wire protocol.
-/

set_option autoImplicit false

namespace TrainsValkey

inductive Reply where
  | simple (text : String)
  | error (text : String)
  | integer (value : Int)
  | bulk (bytes : Bytes)
  | nil
  | nilArray
  | array (items : List Reply)

namespace Reply

mutual

def beq : Reply → Reply → Bool
  | .simple left, .simple right => left == right
  | .error left, .error right => left == right
  | .integer left, .integer right => left == right
  | .bulk left, .bulk right => left == right
  | .nil, .nil => true
  | .nilArray, .nilArray => true
  | .array left, .array right => beqItems left right
  | _, _ => false

def beqItems : List Reply → List Reply → Bool
  | [], [] => true
  | left :: lefts, right :: rights => beq left right && beqItems lefts rights
  | _, _ => false

end

mutual

theorem beq_iff (left right : Reply) : beq left right = true ↔ left = right := by
  cases left with
  | array lefts =>
      cases right with
      | array rights => simp [beq, beqItems_iff lefts rights]
      | _ => simp [beq]
  | _ => cases right <;> simp [beq]

theorem beqItems_iff (lefts rights : List Reply) :
    beqItems lefts rights = true ↔ lefts = rights := by
  cases lefts with
  | nil => cases rights <;> simp [beqItems]
  | cons left lefts =>
      cases rights with
      | nil => simp [beqItems]
      | cons right rights => simp [beqItems, beq_iff left right, beqItems_iff lefts rights]

end

instance : DecidableEq Reply := fun left right =>
  decidable_of_iff (beq left right = true) (beq_iff left right)

def ok : Reply := .simple "OK"

def isError : Reply → Bool
  | .error _ => true
  | _ => false

@[simp] theorem isError_error (text : String) : (Reply.error text).isError = true := rfl
@[simp] theorem isError_integer (value : Int) : (Reply.integer value).isError = false := rfl
@[simp] theorem isError_bulk (bytes : Bytes) : (Reply.bulk bytes).isError = false := rfl
@[simp] theorem isError_nil : Reply.nil.isError = false := rfl
@[simp] theorem isError_array (items : List Reply) : (Reply.array items).isError = false := rfl
@[simp] theorem isError_ok : Reply.ok.isError = false := rfl

end Reply

/-- Both the store and the effect resolver build this reply. -/
def wrongargs (name : String) : Reply :=
  .error s!"ERR wrong number of arguments for '{name}' command"

def wrongtype : Reply :=
  .error "WRONGTYPE Operation against a key holding the wrong kind of value"

@[simp] theorem isError_wrongargs (name : String) : (wrongargs name).isError = true := rfl
@[simp] theorem isError_wrongtype : wrongtype.isError = true := rfl

end TrainsValkey
