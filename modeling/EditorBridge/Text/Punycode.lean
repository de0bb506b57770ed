/-!
Punycode: a text in the letters, digits and hyphens of ASCII. Its ASCII characters come first, and
then, in ascending order, the other characters and where they go, as differences in a number system
of base 36 whose digits have a threshold.
-/

namespace EditorBridge.Text.Punycode

def digit (n : Nat) : Char := Char.ofNat (if n < 26 then 0x61 + n else 0x30 + (n - 26))

def digitValue? (c : Char) : Option Nat :=
  let n := c.toNat
  if 0x61 ≤ n && n ≤ 0x7A then some (n - 0x61)
  else if 0x41 ≤ n && n ≤ 0x5A then some (n - 0x41)
  else if 0x30 ≤ n && n ≤ 0x39 then some (n - 0x30 + 26)
  else none

/-- The threshold of the digit of a weight, a multiple of 36. -/
def threshold (k bias : Nat) : Nat :=
  if k ≤ bias then 1 else if bias + 26 ≤ k then 26 else k - bias

/-- Divides a difference until it is small, and gives the steps taken times 36. -/
def adaptWithin : Nat → (delta k : Nat) → Nat
  | 0, delta, k => k + 36 * delta / (delta + 38)
  | n + 1, delta, k =>
    if 455 < delta then adaptWithin n (delta / 35) (k + 36) else k + 36 * delta / (delta + 38)

/-- The bias after a difference, when `length` characters are there. -/
def adapt (delta length : Nat) (isFirst : Bool) : Nat :=
  let delta := if isFirst then delta / 700 else delta / 2
  adaptWithin 32 (delta + delta / length) 0

def writeWithin : Nat → (bias k q : Nat) → List Char
  | 0, _, _, _ => []
  | n + 1, bias, k, q =>
    let t := threshold k bias
    if q < t then [digit q]
    else digit (t + (q - t) % (36 - t)) :: writeWithin n bias (k + 36) ((q - t) / (36 - t))

/-- Where the encoding is: the differences written, the one that grows, the bias and how many
characters have been handled. -/
structure State where
  written : List Char
  delta : Nat
  bias : Nat
  handled : Nat

/-- Handles all places of the character with number `n`. `basic` characters are ASCII. -/
def handle (n basic : Nat) (state : State) (s : List Char) : State :=
  s.foldl (fun state c =>
    if c.toNat < n then { state with delta := state.delta + 1 }
    else if c.toNat = n then
      ⟨state.written ++ writeWithin 16 state.bias 36 state.delta, 0,
        adapt state.delta (state.handled + 1) (state.handled = basic), state.handled + 1⟩
    else state) state

/-- Handles the characters from `n` on, with a bound on the number of different ones. -/
def encodeWithin (basic : Nat) (s : List Char) : Nat → (n : Nat) → State → State
  | 0, _, state => state
  | fuel + 1, n, state =>
    match ((s.map Char.toNat).filter (n ≤ ·)).min? with
    | none => state
    | some m =>
      let state := { state with delta := state.delta + (m - n) * (state.handled + 1) }
      let state := handle m basic state s
      encodeWithin basic s fuel (m + 1) { state with delta := state.delta + 1 }

def encode (s : List Char) : List Char :=
  let basic := s.filter fun c => c.toNat < 0x80
  let state := encodeWithin basic.length s s.length 0x80 ⟨[], 0, 72, basic.length⟩
  basic ++ (if basic.isEmpty then [] else ['-']) ++ state.written

def readDifference (bias : Nat) : (k weight i : Nat) → List Char → Option (Nat × List Char)
  | _, _, _, [] => none
  | k, weight, i, c :: rest =>
    match digitValue? c with
    | none => none
    | some d =>
      let t := threshold k bias
      if d < t then some (i + d * weight, rest)
      else readDifference bias (k + 36) (weight * (36 - t)) (i + d * weight) rest

/-- Puts the characters that differences stand for into a text, with a bound on their number. -/
def decodeWithin : Nat → (n i bias : Nat) → List Char → List Char → Option (List Char)
  | _, _, _, _, s, [] => some s
  | 0, _, _, _, _, _ :: _ => none
  | fuel + 1, n, i, bias, s, c :: rest =>
    match readDifference bias 36 1 i (c :: rest) with
    | none => none
    | some (next, after) =>
      let length := s.length + 1
      let n := n + next / length
      let place := next % length
      if n.isValidChar then
        decodeWithin fuel n (place + 1) (adapt (next - i) length (i = 0))
          (s.take place ++ Char.ofNat n :: s.drop place) after
      else none

def decode? (s : List Char) : Option (List Char) :=
  let reversed := s.reverse
  let tail := (reversed.takeWhile (· != '-')).reverse
  let head := s.take (s.length - tail.length)
  if head.all fun c => c.toNat < 0x80 then
    decodeWithin tail.length 0x80 0 72 head.dropLast tail
  else none

end EditorBridge.Text.Punycode
