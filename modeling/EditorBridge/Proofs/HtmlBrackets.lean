import EditorBridge.Html.Page
import EditorBridge.Proofs.EscapedText

/-!
The tags of HTML, read one character after the other. A tag ends at the first greater-than sign that
stands in none of its values in quotes; comments and declarations hold no tags. Text without a
less-than sign shows none, and a value in quotes goes on up to the next quote, so escaped text neither
begins a tag nor ends a value.
-/

namespace EditorBridge.Html

/-! ### Reading tags -/

/-- The tags of HTML, with names in lower case and values as they are written. -/
inductive Bracket where
  | start (name : List Char) (attributes : List (List Char × List Char))
  | stop (name : List Char)
  deriving DecidableEq, Repr

structure Draft where
  isStop : Bool
  name : List Char
  attributes : List (List Char × List Char)
  deriving DecidableEq, Repr

namespace Draft

def add (t : Draft) (name value : List Char) : Draft :=
  { t with attributes := t.attributes ++ [(name, value)] }

def bracket (t : Draft) : Bracket := if t.isStop then .stop t.name else .start t.name t.attributes

end Draft

inductive CommentPart where
  | start
  /-- Behind a hyphen at the start. -/
  | startHyphen
  | body
  | hyphen
  | hyphens
  /-- Behind two hyphens and an exclamation mark. -/
  | mark
  deriving DecidableEq, Repr

inductive State where
  | text
  /-- Behind a less-than sign. -/
  | opened
  /-- Behind a less-than sign and a slash. -/
  | stopping
  | name (isStop : Bool) (read : List Char)
  /-- Before the next attribute of a tag. -/
  | inside (tag : Draft)
  | attribute (tag : Draft) (read : List Char)
  /-- Behind the name of an attribute and white space. -/
  | named (tag : Draft) (name : List Char)
  /-- Behind the equals sign of an attribute. -/
  | assigned (tag : Draft) (name : List Char)
  | quoted (quote : Char) (tag : Draft) (name read : List Char)
  /-- In a value without quotes. -/
  | bare (tag : Draft) (name read : List Char)
  /-- Behind a less-than sign and an exclamation mark. -/
  | declared
  /-- Behind a hyphen in the same place. -/
  | hyphened
  /-- In a declaration, or in what is taken for one. -/
  | declaration
  | comment (part : CommentPart)
  deriving DecidableEq, Repr

def isSpace (c : Char) : Bool := c = ' ' || c = '\n' || c = '\t' || c = '\x0c' || c = '\r'

/-- Reads a character of a tag before the next attribute. -/
def stepInside (t : Draft) (c : Char) : State × List Bracket :=
  if c = '>' then (.text, [t.bracket])
  else if isSpace c || c = '/' then (.inside t, [])
  else (.attribute t [c.toLower], [])

def stepComment (part : CommentPart) (c : Char) : State :=
  match part, c with
  | .start, '>' | .startHyphen, '>' | .hyphens, '>' | .mark, '>' => .text
  | .start, '-' => .comment .startHyphen
  | .body, '-' | .mark, '-' => .comment .hyphen
  | .startHyphen, '-' | .hyphen, '-' | .hyphens, '-' => .comment .hyphens
  | .hyphens, '!' => .comment .mark
  | _, _ => .comment .body

/-- Reads a character, and gives the tag that ends with it. -/
def step (state : State) (c : Char) : State × List Bracket :=
  match state with
  | .text => (if c = '<' then .opened else .text, [])
  | .opened =>
    (if c = '!' then .declared
      else if c = '/' then .stopping
      else if c = '?' then .declaration
      else if c.isAlpha then .name false [c.toLower]
      else if c = '<' then .opened
      else .text, [])
  | .stopping =>
    (if c.isAlpha then .name true [c.toLower] else if c = '>' then .text else .declaration, [])
  | .name isStop read =>
    if c = '>' || isSpace c || c = '/' then stepInside ⟨isStop, read, []⟩ c
    else (.name isStop (read ++ [c.toLower]), [])
  | .inside t => stepInside t c
  | .attribute t read =>
    if c = '>' || c = '/' then stepInside (t.add read []) c
    else if isSpace c then (.named t read, [])
    else if c = '=' then (.assigned t read, [])
    else (.attribute t (read ++ [c.toLower]), [])
  | .named t name =>
    if isSpace c then (.named t name, [])
    else if c = '=' then (.assigned t name, [])
    else stepInside (t.add name []) c
  | .assigned t name =>
    if isSpace c then (.assigned t name, [])
    else if c = '\x22' || c = '\x27' then (.quoted c t name [], [])
    else if c = '>' then (.text, [(t.add name []).bracket])
    else (.bare t name [c], [])
  | .quoted quote t name read =>
    (if c = quote then .inside (t.add name read) else .quoted quote t name (read ++ [c]), [])
  | .bare t name read =>
    if c = '>' || isSpace c then stepInside (t.add name read) c
    else (.bare t name (read ++ [c]), [])
  | .declared =>
    (if c = '-' then .hyphened else if c = '>' then .text else .declaration, [])
  | .hyphened =>
    (if c = '-' then .comment .start else if c = '>' then .text else .declaration, [])
  | .declaration => (if c = '>' then .text else .declaration, [])
  | .comment part => (stepComment part c, [])

/-- Reads a text, and gives the tags that end in it. -/
def run (state : State) : List Char → State × List Bracket
  | [] => (state, [])
  | c :: rest =>
    ((run (step state c).1 rest).1, (step state c).2 ++ (run (step state c).1 rest).2)

def bracketsOf (html : List Char) : List Bracket := (run .text html).2

theorem run_append (state : State) (s t : List Char) :
    run state (s ++ t) =
      ((run (run state s).1 t).1, (run state s).2 ++ (run (run state s).1 t).2) := by
  induction s generalizing state with
  | nil => rfl
  | cons c s ih => simp [run, ih]

/-- Whether a reader gets from one state to another, and which tags end on the way. -/
def Runs (state : State) (s : List Char) (next : State) (brackets : List Bracket) : Prop :=
  run state s = (next, brackets)

instance (state : State) (s : List Char) (next : State) (brackets : List Bracket) :
    Decidable (Runs state s next brackets) :=
  inferInstanceAs (Decidable (run state s = (next, brackets)))

theorem Runs.append {a b c : State} {s t : List Char} {xs ys : List Bracket}
    (h : Runs a s b xs) (h' : Runs b t c ys) : Runs a (s ++ t) c (xs ++ ys) := by
  rw [Runs, run_append, h, h']

theorem bracketsOf_append {s : List Char} {xs : List Bracket} (h : Runs .text s .text xs)
    (t : List Char) : bracketsOf (s ++ t) = xs ++ bracketsOf t := by
  rw [bracketsOf, run_append, h, bracketsOf]

/-! ### Text in the place of text and of values -/

theorem runs_text {s : List Char} (h : '<' ∉ s) : Runs .text s .text [] := by
  induction s with
  | nil => rfl
  | cons c s ih =>
    obtain ⟨hc, hs⟩ := not_or.mp (fun hm => h (List.mem_cons.mpr hm))
    have hstep : step .text c = (.text, []) := by simp [step, Ne.symm hc]
    rw [Runs, run, hstep, ih hs]
    rfl

theorem runs_quoted {quote : Char} {s : List Char} (h : quote ∉ s) (t : Draft)
    (name read : List Char) :
    Runs (.quoted quote t name read) s (.quoted quote t name (read ++ s)) [] := by
  induction s generalizing read with
  | nil => simp [Runs, run]
  | cons c s ih =>
    obtain ⟨hc, hs⟩ := not_or.mp (fun hm => h (List.mem_cons.mpr hm))
    have hstep : step (.quoted quote t name read) c = (.quoted quote t name (read ++ [c]), []) := by
      simp [step, Ne.symm hc]
    rw [Runs, run, hstep, ih hs]
    simp

end EditorBridge.Html
