/-!
The written forms of network addresses: four bytes between points, eight words between colons, and
either of them with a port.

A reader takes an address from the front of a text and gives back the rest. Where parts of addresses
may be escaped, a percent sign and two hexadecimal digits stand for a byte.
-/

namespace Provisioner.Net

abbrev Reader (α : Type) := List Char → Option (α × List Char)

def hexDigit? (c : Char) : Option Nat :=
  if '0' ≤ c ∧ c ≤ '9' then some (c.toNat - '0'.toNat)
  else if 'a' ≤ c ∧ c ≤ 'f' then some (c.toNat - 'a'.toNat + 10)
  else if 'A' ≤ c ∧ c ≤ 'F' then some (c.toNat - 'A'.toNat + 10)
  else none

def digitIn? (radix : Nat) (c : Char) : Option Nat := (hexDigit? c).filter (· < radix)

/-- The given character, and then what `next` reads. -/
def after {α : Type} (c : Char) (next : Reader α) : Reader α
  | d :: cs => if d = c then next cs else none
  | [] => none

/-- All the digits at the front, as a number up to `limit`. -/
def number (radix limit : Nat) : Reader Nat := fun cs =>
  let ds := cs.takeWhile fun c => (digitIn? radix c).isSome
  let value := ds.foldl (fun n c => radix * n + (digitIn? radix c).getD 0) 0
  if ds.isEmpty || limit < value then none else some (value, cs.drop ds.length)

/-- A byte of an address has at most three digits, and no zero in front. -/
def byte : Reader Nat := fun cs =>
  match cs with
  | '0' :: c :: _ => if (digitIn? 10 c).isSome then none else number 10 255 cs
  | _ => number 10 255 cs

/-- Every two bytes make a word. -/
def paired : List Nat → List Nat
  | a :: b :: bs => (256 * a + b) :: paired bs
  | _ => []

def ipv4 : Reader (List Nat) := fun cs => do
  let (a, cs) ← byte cs
  let (b, cs) ← after '.' byte cs
  let (c, cs) ← after '.' byte cs
  let (d, cs) ← after '.' byte cs
  return ([a, b, c, d], cs)

/-- A word has at most four digits. -/
def word : Reader Nat := fun cs =>
  if 4 < (cs.takeWhile fun c => (hexDigit? c).isSome).length then none else number 16 65535 cs

/-- Up to `limit` words between colons, the last two of which may be written as four bytes; `first`
tells that no colon stands in front. The flag tells whether bytes end them. -/
def words (first : Bool) : Nat → List Char → (List Nat × Bool) × List Char
  | 0, cs => (([], false), cs)
  | limit + 1, cs =>
    let separated {α : Type} (r : Reader α) : Reader α := if first then r else after ':' r
    match if 0 < limit then separated ipv4 cs else none with
    | some (bs, cs) => ((paired bs, true), cs)
    | none =>
      match separated word cs with
      | some (w, rest) =>
        let ((ws, ends), rest) := words false limit rest
        ((w :: ws, ends), rest)
      | none => (([], false), cs)

/-- Eight words, or fewer with two colons in the place of zeros, of which there is at least one. -/
def ipv6 : Reader (List Nat) := fun cs =>
  let ((ws, ends), cs) := words true 8 cs
  if ws.length = 8 then some (ws, cs)
  else if ends then none
  else match cs with
    | ':' :: ':' :: cs =>
      let ((last, _), cs) := words true (7 - ws.length) cs
      some (ws ++ List.replicate (8 - ws.length - last.length) 0 ++ last, cs)
    | _ => none

/-- What is read if it is the whole text. -/
def whole? {α : Type} (r : Reader α) (s : String) : Option α :=
  match r s.toList with
  | some (a, []) => some a
  | _ => none

/-- An address on a network. -/
inductive Host where
  | four (bytes : List Nat)
  | six (words : List Nat)
  deriving Repr, DecidableEq

def isAddress (s : String) : Bool := (whole? ipv4 s).isSome || (whole? ipv6 s).isSome

def port : Reader Nat := after ':' (number 10 65535)

/-- A percent sign and a number may name the link that an address is on. -/
def scope : Reader Unit
  | '%' :: cs => (number 10 (UInt32.size - 1) cs).map fun r => ((), r.2)
  | cs => some ((), cs)

def socket4 : Reader Host := fun cs => do
  let (bs, cs) ← ipv4 cs
  let (_, cs) ← port cs
  return (.four bs, cs)

def socket6 : Reader Host := after '[' fun cs => do
  let (ws, cs) ← ipv6 cs
  let (_, cs) ← scope cs
  let (_, cs) ← after ']' port cs
  return (.six ws, cs)

/-- The address in an address with a port. -/
def socketHost? (s : String) : Option Host := (whole? socket4 s).or (whole? socket6 s)

/-- Four bytes that a server can take on any machine: for all its links or the way back to itself,
for a group or for everybody. -/
def areLocal : List Nat → Bool
  | [0, 0, 0, 0] | [255, 255, 255, 255] => true
  | a :: _ => a == 127 || (224 ≤ a && a < 240)
  | [] => false

/-- A server can take the address on any machine. Groups have no place here; bytes may be written
as words. -/
def Host.isLocal : Host → Bool
  | .four bs => areLocal bs
  | .six [0, 0, 0, 0, 0, 0, 0, w] => w ≤ 1
  | .six [0, 0, 0, 0, 0, 0xffff, v, w] => areLocal [v / 256, v % 256, w / 256, w % 256]
  | .six _ => false

example : socketHost? "[::1]:80" = some (.six [0, 0, 0, 0, 0, 0, 0, 1]) := by cbv

example : (socketHost? "[::ffff:127.0.0.1]:80").any Host.isLocal := by cbv

/-- A percent sign without two digits after it stands for itself. -/
def percentBytes : List Char → List UInt8
  | [] => []
  | '%' :: a :: b :: cs =>
    match hexDigit? a, hexDigit? b with
    | some x, some y => UInt8.ofNat (16 * x + y) :: percentBytes cs
    | _, _ => '%'.val.toUInt8 :: percentBytes (a :: b :: cs)
  | c :: cs => (String.singleton c).toUTF8.toList ++ percentBytes cs

/-- The text that the bytes spell, if they spell one. -/
def percentDecode? (cs : List Char) : Option String :=
  String.fromUTF8? (ByteArray.mk (percentBytes cs).toArray)

end Provisioner.Net
