import Switchboard.Text.Bytes

/-!
# JSON values

Members keep the order and the repetitions of the text they were read from, so that a reader of
records can tell a repeated member.
-/

namespace Switchboard

inductive Json where
  | null
  | bool (b : Bool)
  /-- A number written without a fraction or an exponent. -/
  | int (n : Int)
  /-- Any other number: `mantissa * 10 ^ exponent`. A negative zero is written as one. -/
  | decimal (negative : Bool) (mantissa : Nat) (exponent : Int)
  | str (s : String)
  /-- A string that is no text because it holds half of a surrogate pair or a bare control
  character. Its bytes can still be used where bytes are wanted. `bare` says whether it holds such
  a control character. -/
  | loose (bytes : Bytes) (bare : Bool)
  | arr (items : List Json)
  | obj (members : List (String × Json))
deriving Repr, Inhabited

namespace Json

/-- Equal values have equal members in the same order. -/
def beq : Json → Json → Bool
  | null, null => true
  | bool a, bool b => a == b
  | int a, int b => a == b
  | decimal n m e, decimal n' m' e' => n == n' && m == m' && e == e'
  | str a, str b => a == b
  | loose a bare, loose b bare' => a == b && bare == bare'
  | arr as, arr bs => items as bs
  | obj as, obj bs => members as bs
  | _, _ => false
where
  items : List Json → List Json → Bool
    | [], [] => true
    | a :: as, b :: bs => beq a b && items as bs
    | _, _ => false
  members : List (String × Json) → List (String × Json) → Bool
    | [], [] => true
    | (k, a) :: as, (l, b) :: bs => k == l && beq a b && members as bs
    | _, _ => false

instance : BEq Json := ⟨beq⟩

/-- Whether a value can be passed over: no string in it holds a bare control character. -/
def isPassable : Json → Bool
  | loose _ bare => !bare
  | arr vs => items vs
  | obj ms => members ms
  | _ => true
where
  items : List Json → Bool
    | [] => true
    | v :: vs => isPassable v && items vs
  members : List (String × Json) → Bool
    | [] => true
    | (_, v) :: ms => isPassable v && members ms

def ofNat (n : Nat) : Json := int n

def ofOption (f : α → Json) : Option α → Json
  | none => null
  | some a => f a

def ofList (f : α → Json) (as : List α) : Json :=
  arr (as.map f)

end Json

end Switchboard
