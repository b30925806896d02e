import StoreClient.Binary64.Shortest

/-!
# Written forms of a number

Every written form shows the shortest decimal. A `Layout` decides what is left: whether whole
numbers keep a point and a zero, from which magnitudes on a power of ten is written, and how
not-a-number is spelt.
-/

namespace StoreClient.Binary64

/-- The choices of a written form. -/
structure Layout where
  /-- Whether a whole number is written with a point and a zero. -/
  pointZero : Bool
  /-- The decimal exponents, from the first up to but not the second, that are written without a
  power of ten; `none` when no number is written with one. -/
  positional : Option (Int × Int)
  /-- The spelling of not-a-number. -/
  notANumber : String
deriving DecidableEq, Repr

namespace Layout

/-- Digits only: no power of ten, and no point on whole numbers. -/
def plain : Layout := ⟨false, none, "NaN"⟩

/-- Digits with a point always, and no power of ten. -/
def pointed : Layout := ⟨true, none, "NaN"⟩

/-- A form for diagnostics: a point always, and a power of ten below `10 ^ -4` and from `10 ^ 16`
on. -/
def diagnostic : Layout := ⟨true, some (-4, 16), "NaN"⟩

/-- A form for documents: a point always, no power of ten, and `nan` in small letters. -/
def document : Layout := ⟨true, none, "nan"⟩

/-- A text of `n` zeros. -/
def zeros (n : Nat) : List Char := List.replicate n '0'

/-- Digits with a point after the first `point` of them, filled up with zeros on either side. -/
def positionally (l : Layout) (ds : List Char) (point : Int) : List Char :=
  if point ≤ 0 then '0' :: '.' :: (zeros (-point).toNat ++ ds)
  else if point < ds.length then ds.take point.toNat ++ '.' :: ds.drop point.toNat
  else ds ++ zeros (point.toNat - ds.length) ++ (if l.pointZero then ['.', '0'] else [])

/-- One digit before the point, the others after it, and the power of ten. -/
def scientifically (ds : List Char) (exponent : Int) : List Char :=
  let fraction := if ds.length ≤ 1 then [] else '.' :: ds.drop 1
  let power := (if exponent < 0 then ['-'] else []) ++ Decimal.digitChars exponent.natAbs
  ds.take 1 ++ fraction ++ 'e' :: power

/-- The written form of a magnitude. -/
def magnitude (l : Layout) (m : Magnitude) : List Char :=
  if m.units = 0 then '0' :: (if l.pointZero then ['.', '0'] else [])
  else
    let d := m.shortest
    let ds := Decimal.digitChars d.digits
    let exponent := d.exponent + ds.length - 1
    let inside := match l.positional with
      | none => true
      | some (least, bound) => least ≤ exponent && exponent < bound
    if inside then l.positionally ds (exponent + 1) else scientifically ds exponent

/-- The written form of a number. A negative number starts with a minus, negative zero too, and
not-a-number has no sign. -/
def write (l : Layout) : Binary64 → String
  | .nan => l.notANumber
  | .infinite negative => if negative then "-inf" else "inf"
  | .finite negative m =>
    String.ofList (if negative then '-' :: l.magnitude m else l.magnitude m)

end Layout

/-- The number in digits only, as it stands in messages. -/
def toText (x : Binary64) : String := Layout.plain.write x

instance : ToString Binary64 := ⟨toText⟩

instance : Repr Binary64 := ⟨fun x _ => Layout.diagnostic.write x⟩

end StoreClient.Binary64
