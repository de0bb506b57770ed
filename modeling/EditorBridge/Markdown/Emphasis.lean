import EditorBridge.Markdown.Node

/-!
Emphasis. Runs of stars and low lines are paired from the inside out: a run that can close looks for
the nearest run before it that can open, and from the two as many characters are taken as both have.
Two make strong emphasis and one makes emphasis. What is left of a run is text.
-/

namespace EditorBridge.Markdown

/-- A part of a line of text whose brackets are resolved. -/
inductive Part where
  | node (n : Node)
  | delimiter (mark : Char) (count : Nat) (opens closes : Bool)

/-- A run that may open emphasis, and what follows it up to the next such run. -/
structure Opener where
  mark : Char
  count : Nat
  /-- The run, or the one that took part of it, may also close emphasis. -/
  both : Bool
  after : List Node

/-- How far down the openers each kind of closing run has looked in vain, as the number of openers
below that point. -/
structure Bounds where
  lowLine : Nat
  lowLineBoth : Nat
  star : Nat
  /-- For runs of stars whose length leaves the remainder 0 when divided by three, and then 1
  and 2. -/
  star₀ : Nat
  star₁ : Nat
  star₂ : Nat

namespace Bounds

def none : Bounds := ⟨0, 0, 0, 0, 0, 0⟩

def starOf (count : Nat) (b : Bounds) : Nat :=
  if count % 3 = 0 then b.star₀ else if count % 3 = 1 then b.star₁ else b.star₂

def get (mark : Char) (count : Nat) (both : Bool) (b : Bounds) : Nat :=
  if mark = '_' then if both then b.lowLineBoth else b.lowLine
  else if both then b.starOf count
  else min (b.starOf count) b.star

def set (mark : Char) (count : Nat) (both : Bool) (bound : Nat) (b : Bounds) : Bounds :=
  if mark = '_' then
    if both then { b with lowLineBoth := bound } else { b with lowLine := bound }
  else
    let b := if both then b else { b with star := bound }
    if count % 3 = 0 then { b with star₀ := bound }
    else if count % 3 = 1 then { b with star₁ := bound }
    else { b with star₂ := bound }

/-- Lowers all bounds to the number of openers that are left. -/
def lower (bound : Nat) (b : Bounds) : Bounds :=
  ⟨min b.lowLine bound, min b.lowLineBoth bound, min b.star bound, min b.star₀ bound,
    min b.star₁ bound, min b.star₂ bound⟩

end Bounds

/-- What has been read of a line: the nodes before the first opener, and the openers, the innermost
first. -/
structure Pairing where
  nodes : List Node
  openers : List Opener
  bounds : Bounds

def delimiterText (mark : Char) (count : Nat) : List Node :=
  List.replicate count (.text (String.singleton mark))

def Opener.nodes (o : Opener) : List Node := delimiterText o.mark o.count ++ o.after

namespace Pairing

def add (nodes : List Node) (p : Pairing) : Pairing :=
  match p.openers with
  | [] => { p with nodes := p.nodes ++ nodes }
  | o :: outer => { p with openers := { o with after := o.after ++ nodes } :: outer }

/-- Whether a closing run can be paired with an opener. Where one of them can do both, the sum of
their lengths is no multiple of three unless both lengths are. -/
def fits (mark : Char) (count : Nat) (both : Bool) (o : Opener) : Bool :=
  o.mark = mark &&
    (!both && !o.both || (count + o.count) % 3 != 0 || count % 3 = 0)

/-- The openers above a match, the match, and the openers below it. -/
def split (fitting : Opener → Bool) (bound : Nat) :
    List Opener → Option (List Opener × Opener × List Opener)
  | [] => none
  | o :: outer =>
    if outer.length < bound then none
    else if fitting o then some ([], o, outer)
    else (split fitting bound outer).map fun (above, found, below) => (o :: above, found, below)

/-- Wraps nodes in emphasis, two delimiters at a time as long as there are two. -/
def wrap : Nat → List Node → List Node
  | 0, nodes => nodes
  | 1, nodes => [.element .emphasis nodes]
  | n + 2, nodes => wrap n [.element .strong nodes]

/-- Pairs a closing run with openers as long as it has characters left and a match. Gives how many
characters are left. The first argument bounds the number of matches. -/
def closeRun (mark : Char) (both : Bool) : Nat → (count : Nat) → Pairing → Nat × Pairing
  | 0, count, p => (count, p)
  | n + 1, count, p =>
    if count = 0 then (0, p)
    else
      let bound := min p.openers.length (p.bounds.get mark count both)
      match split (fits mark count both) bound p.openers with
      | none => (count, { p with bounds := p.bounds.set mark count both p.openers.length })
      | some (above, found, below) =>
        let inside := found.after ++ above.reverse.flatMap Opener.nodes
        let taken := min count found.count
        let p : Pairing := { p with openers := below, bounds := p.bounds.lower below.length }
        let wrapped := wrap taken inside
        let p :=
          if taken < found.count then
            { p with openers := ⟨mark, found.count - taken, both, wrapped⟩ :: p.openers }
          else p.add wrapped
        closeRun mark both n (count - taken) p

def read (p : Pairing) : Part → Pairing
  | .node n => p.add [n]
  | .delimiter mark count opens closes =>
    let both := opens && closes
    let (left, p) := if closes then closeRun mark both count count p else (count, p)
    if left = 0 then p
    else if opens then { p with openers := ⟨mark, left, both, []⟩ :: p.openers }
    else p.add (delimiterText mark left)

def finish (p : Pairing) : List Node := p.nodes ++ p.openers.reverse.flatMap Opener.nodes

end Pairing

def emphasize (parts : List Part) : List Node :=
  (parts.foldl Pairing.read ⟨[], [], .none⟩).finish

end EditorBridge.Markdown
