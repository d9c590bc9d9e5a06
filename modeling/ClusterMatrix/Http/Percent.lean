import ClusterMatrix.Text.Hex

/-!
# Percent encoding

A byte that may not stand for itself is written as a percent sign and two hexadecimal digits.
-/

namespace ClusterMatrix.Http.Percent

def code (b : UInt8) : List Char := '%' :: (Text.hexDigits 2 b.toNat).map Char.toUpper

def codes (c : Char) : List Char := (String.utf8EncodeChar c).flatMap code

def isUnreserved (c : Char) : Bool := c.isAlphanum || c = '.' || c = '_' || c = '-' || c = '~'

/-- Encodes every character that is not allowed. -/
def quote (allowed : Char → Bool) (s : List Char) : List Char :=
  s.flatMap fun c ↦ if allowed c then [c] else codes c

/-- Writes the digits of the codes in capitals. -/
def capitals : List Char → List Char
  | '%' :: a :: b :: r =>
    if Text.isHex a && Text.isHex b then '%' :: a.toUpper :: b.toUpper :: capitals r
    else '%' :: capitals (a :: b :: r)
  | c :: r => c :: capitals r
  | [] => []

/-- Every percent sign begins a code. -/
def isEncoded : List Char → Bool
  | '%' :: a :: b :: r => Text.isHex a && Text.isHex b && isEncoded r
  | '%' :: _ => false
  | _ :: r => isEncoded r
  | [] => true

/-- Encodes what is not allowed; the codes in a text that is encoded already stay. -/
def normalize (allowed : Char → Bool) (s : List Char) : List Char :=
  quote (fun c ↦ allowed c || (c = '%' && isEncoded s)) (capitals s)

/-- Reads the codes of unreserved characters, and fails at two letters or digits that are no code. -/
def readUnreserved? : List Char → Option (List Char)
  | '%' :: a :: b :: r =>
    if a.isAlphanum && b.isAlphanum then match Text.hexValue? a, Text.hexValue? b with
      | some x, some y =>
        let c := Char.ofNat (x * 16 + y)
        (readUnreserved? r).map fun t ↦ if isUnreserved c then c :: t else '%' :: a :: b :: t
      | _, _ => none
    else (readUnreserved? (a :: b :: r)).map ('%' :: ·)
  | c :: r => (readUnreserved? r).map (c :: ·)
  | [] => some []

def isReserved (c : Char) : Bool := "!#$&'()*+,/:;=?@[]".toList.contains c

/-- Encodes a whole reference: percent signs stay if all of them can be codes. -/
def requote (s : List Char) : List Char :=
  match readUnreserved? s with
  | some t => quote (fun c ↦ isUnreserved c || isReserved c || c = '%') t
  | none => quote (fun c ↦ isUnreserved c || isReserved c) s

/-- The bytes that a text stands for. -/
def bytes : List Char → List UInt8
  | '%' :: a :: b :: r => match Text.hexValue? a, Text.hexValue? b with
    | some x, some y => UInt8.ofNat (x * 16 + y) :: bytes r
    | _, _ => 37 :: bytes (a :: b :: r)
  | c :: r => String.utf8EncodeChar c ++ bytes r
  | [] => []

end ClusterMatrix.Http.Percent
