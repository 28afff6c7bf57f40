import RoleGrants.Text.Quoted

/-!
# Plain values

Values that come from outside without a type: settings given by a caller, a role or a principal of
the wrong kind. `Literal.quoted` is the text in which a message shows such a value: texts between
quotes, lists in brackets, records in braces, numbers with a fraction by their significant digits.

Values are compared in two ways. `same_iff` decides whether two are written alike. `identity` is
what counts where values are collected into a set: there a number is its value, however it is
written, and true and false are one and zero.
-/

namespace RoleGrants

/-- A value without a type of its own. A number with a fraction is `digits · 10 ^ exponent` with a
sign; it has one even if it is zero. -/
inductive Literal where
  | null
  | flag (value : Bool)
  | whole (value : Int)
  | fraction (negative : Bool) (digits : Nat) (exponent : Int)
  | text (value : String)
  | list (items : List Literal)
  | record (fields : List (String × Literal))
  deriving Repr, Inhabited

namespace Literal

/-! ### Values written alike -/

mutual

/-- Whether two values are of one kind and written alike. -/
def same : Literal → Literal → Bool
  | .null, .null => true
  | .flag a, .flag b => a == b
  | .whole a, .whole b => a == b
  | .fraction s m e, .fraction s' m' e' => s == s' && m == m' && e == e'
  | .text a, .text b => a == b
  | .list xs, .list ys => sameItems xs ys
  | .record fs, .record gs => sameFields fs gs
  | _, _ => false

def sameItems : List Literal → List Literal → Bool
  | [], [] => true
  | x :: xs, y :: ys => same x y && sameItems xs ys
  | _, _ => false

def sameFields : List (String × Literal) → List (String × Literal) → Bool
  | [], [] => true
  | (k, x) :: fs, (l, y) :: gs => k == l && same x y && sameFields fs gs
  | _, _ => false

end

mutual

theorem same_iff : ∀ a b : Literal, same a b = true ↔ a = b
  | .null, b => by cases b <;> simp [same]
  | .flag _, b => by cases b <;> simp [same]
  | .whole _, b => by cases b <;> simp [same]
  | .fraction _ _ _, b => by cases b <;> simp [same, and_assoc]
  | .text _, b => by cases b <;> simp [same]
  | .list xs, b => by
    cases b with
    | list ys => simp [same, sameItems_iff xs ys]
    | _ => simp [same]
  | .record fs, b => by
    cases b with
    | record gs => simp [same, sameFields_iff fs gs]
    | _ => simp [same]

theorem sameItems_iff : ∀ xs ys : List Literal, sameItems xs ys = true ↔ xs = ys
  | [], ys => by cases ys <;> simp [sameItems]
  | x :: xs, [] => by simp [sameItems]
  | x :: xs, y :: ys => by simp [sameItems, same_iff x y, sameItems_iff xs ys]

theorem sameFields_iff : ∀ fs gs : List (String × Literal), sameFields fs gs = true ↔ fs = gs
  | [], gs => by cases gs <;> simp [sameFields]
  | (k, x) :: fs, [] => by simp [sameFields]
  | (k, x) :: fs, (l, y) :: gs => by
    simp [sameFields, same_iff x y, sameFields_iff fs gs]

end

instance : DecidableEq Literal := fun a b => decidable_of_iff _ (same_iff a b)

/-! ### Values of numbers -/

/-- The binary digits that a number with a fraction keeps. -/
def precision : Nat := 53

/-- A whole number with as many binary digits as a number with a fraction keeps, and zeros behind
them: the nearest such number, and of two equally near ones the one whose last digit is even. -/
def rounded (n : Nat) : Nat :=
  let unit := Nat.pow 2 (n.log2 + 1 - precision)
  let below := n / unit
  let rest := n % unit
  let up := decide (unit < 2 * rest) || (2 * rest == unit && below % 2 == 1)
  (if up then below + 1 else below) * unit

/-- The whole number that a number with a fraction is, if its fraction is zero. -/
def wholeOfFraction? (negative : Bool) (digits : Nat) (exponent : Int) : Option Int :=
  let unit := Nat.pow 10 exponent.natAbs
  let size? :=
    if 0 ≤ exponent then some (rounded (digits * unit))
    else if digits % unit = 0 then some (rounded (digits / unit))
    else none
  size?.map fun size => if negative then -(size : Int) else size

/-- What a value counts as in a set. -/
def identity : Literal → Literal
  | .flag b => .whole b.toNat
  | .fraction s m e => (wholeOfFraction? s m e).elim (.fraction s m e) .whole
  | other => other

/-- Whether a value counts as true where a truth value is asked for: anything but null, false, zero
and what is empty. -/
def isTruthy : Literal → Bool
  | .null => false
  | .flag b => b
  | .whole n => n != 0
  | .fraction _ digits _ => digits != 0
  | .text s => s != ""
  | .list xs => !xs.isEmpty
  | .record fs => !fs.isEmpty

/-- The text that a value is. -/
def text? : Literal → Option String
  | .text s => some s
  | _ => none

/-- The name of the kind of a value. -/
def kindName : Literal → String
  | .null => "NoneType"
  | .flag _ => "bool"
  | .whole _ => "int"
  | .fraction .. => "float"
  | .text _ => "str"
  | .list _ => "list"
  | .record _ => "dict"

/-- Whether a value can be in a set: lists and records cannot. -/
def canBeMember : Literal → Bool
  | .list _ | .record _ => false
  | _ => true

/-! ### Values as they are shown -/

/-- The digits of a number without zeros at the end, and how many were taken away. -/
def significantDigits (n : Nat) : List Char × Nat :=
  let ds := Nat.toDigits 10 n
  let kept := (ds.reverse.dropWhile (· == '0')).reverse
  (kept, ds.length - kept.length)

/-- An exponent behind its mark: a sign and at least two digits. -/
def exponentText (e : Int) : List Char :=
  let ds := Nat.toDigits 10 e.natAbs
  'e' :: (if e < 0 then '-' else '+') :: (if ds.length < 2 then '0' :: ds else ds)

/-- A positive number by its significant digits `ds` and the place `point` of the decimal point
after the first of them: positional from 0.0001 up to 10 ^ 16, with an exponent outside. -/
def positiveFraction (ds : List Char) (point : Int) : List Char :=
  if point ≤ -4 || 16 < point then
    match ds with
    | [] => []
    | d :: rest => d :: ((if rest.isEmpty then [] else '.' :: rest) ++ exponentText (point - 1))
  else if point ≤ 0 then
    '0' :: '.' :: (List.replicate point.natAbs '0' ++ ds)
  else if ds.length ≤ point.toNat then
    ds ++ List.replicate (point.toNat - ds.length) '0' ++ ['.', '0']
  else
    ds.take point.toNat ++ '.' :: ds.drop point.toNat

/-- A number with a fraction, as it is shown. -/
def fractionText (negative : Bool) (digits : Nat) (exponent : Int) : String :=
  let (ds, zeros) := significantDigits digits
  let shown :=
    if digits = 0 then ['0', '.', '0'] else positiveFraction ds (ds.length + zeros + exponent)
  String.ofList (if negative then '-' :: shown else shown)

mutual

/-- The text in which a message shows a value. -/
def quoted : Literal → String
  | .null => Text.absent
  | .flag true => "True"
  | .flag false => "False"
  | .whole n => toString n
  | .fraction s m e => fractionText s m e
  | .text s => Text.quoted s
  | .list xs => "[" ++ String.intercalate ", " (quotedItems xs) ++ "]"
  | .record fs => "\x7b" ++ String.intercalate ", " (quotedFields fs) ++ "\x7d"

/-- The items of a list, each as it is shown. -/
def quotedItems : List Literal → List String
  | [] => []
  | x :: xs => x.quoted :: quotedItems xs

/-- The fields of a record, each as it is shown. -/
def quotedFields : List (String × Literal) → List String
  | [] => []
  | (name, x) :: fs => (Text.quoted name ++ ": " ++ x.quoted) :: quotedFields fs

end

/-- A value as running text: a text stands for itself. -/
def plain : Literal → String
  | .text s => s
  | other => other.quoted

end Literal

end RoleGrants
