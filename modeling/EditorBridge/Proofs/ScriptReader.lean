import EditorBridge.Proofs.TextReplace
import EditorBridge.Script.Command
import EditorBridge.Text.Blank

/-!
Reading editor scripts. A command ends at a line feed outside quotes, words are separated by blanks,
and a word that begins with a single quote runs to the first single quote that is not doubled, where
two of them stand for one. Commands that are written as a script are read as they were, whatever
their quoted words hold; a script that is a word of a command is read again.
-/

namespace EditorBridge.Script

/-- Where a reader is: between words, or inside one of which it has the characters in reverse. -/
inductive Mode where
  | between
  | bare (read : List Char)
  | quoted (read : List Char)

/-- Whether a character ends a command. A semicolon may be taken to do so too. -/
def endsCommand (semicolons : Bool) (c : Char) : Bool := c = '\n' || (semicolons && c = ';')

def bareWord (read : List Char) : Word := .bare (String.ofList read.reverse)

def finished (words : List Word) : List Command := if words.isEmpty then [] else [words.reverse]

/-- Reads commands, of which the first one begins with `words` in reverse. -/
def commandsFrom (semicolons : Bool) : Mode → List Word → List Char → Option (List Command)
  | .between, words, [] => some (finished words)
  | .bare read, words, [] => some (finished (bareWord read :: words))
  | .quoted _, _, [] => none
  | .quoted read, words, '\x27' :: '\x27' :: rest =>
    commandsFrom semicolons (.quoted ('\x27' :: read)) words rest
  | .quoted read, words, '\x27' :: rest =>
    commandsFrom semicolons .between (.quoted (String.ofList read.reverse) :: words) rest
  | .quoted read, words, c :: rest => commandsFrom semicolons (.quoted (c :: read)) words rest
  | .between, words, c :: rest =>
    if endsCommand semicolons c then
      (commandsFrom semicolons .between [] rest).map (finished words ++ ·)
    else if Text.isBlank c then commandsFrom semicolons .between words rest
    else if c = '\x27' then commandsFrom semicolons (.quoted []) words rest
    else commandsFrom semicolons (.bare [c]) words rest
  | .bare read, words, c :: rest =>
    if endsCommand semicolons c then
      (commandsFrom semicolons .between [] rest).map (finished (bareWord read :: words) ++ ·)
    else if Text.isBlank c then commandsFrom semicolons .between (bareWord read :: words) rest
    else commandsFrom semicolons (.bare (c :: read)) words rest

/-- The commands of a script; nothing if a quoted word has no end. -/
def commands? (semicolons : Bool) (script : String) : Option (List Command) :=
  commandsFrom semicolons .between [] script.toList

def endsWord (semicolons : Bool) (c : Char) : Bool := endsCommand semicolons c || Text.isBlank c

/-- Whether a text begins where a word has ended. -/
def AtBreak (semicolons : Bool) (s : List Char) : Prop := ∀ c ∈ s.head?, endsWord semicolons c

/-- Whether a bare word is read as it is written. -/
def IsPlain (s : String) : Prop :=
  s ≠ "" ∧ ∀ c ∈ s.toList, Text.isBlank c = false ∧ c ≠ ';' ∧ c ≠ '\x27'

instance (s : String) : Decidable (IsPlain s) :=
  @instDecidableAnd _ _ inferInstance (List.decidableBAll _ s.toList)

/-- Whether a word is read as it is written: quoted words always are. -/
def Word.IsReadable : Word → Prop
  | bare text => IsPlain text
  | quoted _ => True

def IsReadable (command : Command) : Prop := command ≠ [] ∧ ∀ w ∈ command, w.IsReadable

theorem atBreak_nil (semicolons : Bool) : AtBreak semicolons [] := by simp [AtBreak]

theorem atBreak_space (semicolons : Bool) (rest : List Char) :
    AtBreak semicolons (' ' :: rest) := by
  simp [AtBreak, endsWord, Text.isBlank]

theorem atBreak_newline (semicolons : Bool) (rest : List Char) :
    AtBreak semicolons ('\n' :: rest) := by
  simp [AtBreak, endsWord, endsCommand]

theorem quote_not_endsWord (semicolons : Bool) : endsWord semicolons '\x27' = false := by
  cases semicolons <;> decide

/-- The inside of a quoted word is the text with its single quotes replaced by two. -/
theorem toList_escape_eq (s : String) :
    (escape s).toList = Text.replaceAll ['\x27'] ['\x27', '\x27'] s.toList := by
  have hc : escapeChar = Text.standIn [('\x27', ['\x27', '\x27'])] := by
    funext c
    rw [escapeChar, Text.standIn_cons, Text.standIn_nil]
  rw [toList_escape, hc, Text.replaceAll_character]

/-- A quoted word ends at a quote that no other follows, and has the characters that were quoted. -/
theorem commandsFrom_escaped (semicolons : Bool) (read : List Char) (words : List Word)
    (s rest : List Char) (h : rest.head? ≠ some '\x27') :
    commandsFrom semicolons (.quoted read) words (s.flatMap escapeChar ++ '\x27' :: rest) =
      commandsFrom semicolons .between (.quoted (String.ofList (read.reverse ++ s)) :: words)
        rest := by
  induction s generalizing read with
  | nil =>
    cases rest with
    | nil => simp [commandsFrom]
    | cons c rest =>
      have hc : c ≠ '\x27' := by simpa using h
      simp [commandsFrom, hc]
  | cons c s ih =>
    by_cases hc : c = '\x27'
    · subst hc
      simp [escapeChar, commandsFrom, ih]
    · have he : escapeChar c = [c] := by simp [escapeChar, hc]
      simp only [List.flatMap_cons, he, List.cons_append, List.nil_append]
      rw [commandsFrom, ih]
      · simp
      all_goals simp [hc]

/-- A bare word that has begun ends at the next break. -/
theorem commandsFrom_bare (semicolons : Bool) (read : List Char) (words : List Word)
    (s rest : List Char) (hs : ∀ c ∈ s, endsWord semicolons c = false)
    (h : AtBreak semicolons rest) :
    commandsFrom semicolons (.bare read) words (s ++ rest) =
      commandsFrom semicolons .between (bareWord (s.reverse ++ read) :: words) rest := by
  induction s generalizing read with
  | nil =>
    cases rest with
    | nil => simp [commandsFrom]
    | cons c rest =>
      have hc : endsWord semicolons c = true := by simpa [AtBreak] using h
      by_cases he : endsCommand semicolons c = true
      · simp [commandsFrom, he]
      · have hb : Text.isBlank c = true := by simpa [endsWord, he] using hc
        simp [commandsFrom, he, hb]
  | cons c s ih =>
    have hc : endsCommand semicolons c = false ∧ Text.isBlank c = false := by
      simpa [endsWord] using hs c (by simp)
    rw [List.cons_append, commandsFrom, hc.1, hc.2, ih _ fun d hd => hs d (by simp [hd])]
    simp

theorem IsPlain.not_endsWord {s : String} (h : IsPlain s) (semicolons : Bool) :
    ∀ c ∈ s.toList, endsWord semicolons c = false := by
  intro c hc
  obtain ⟨hb, hs, -⟩ := h.2 c hc
  have hn : c ≠ '\n' := by rintro rfl; simp [Text.isBlank] at hb
  simp [endsWord, endsCommand, hb, hs, hn]

/-- A word that is readable is read as it is written, where a word has ended behind it. -/
theorem commandsFrom_word (semicolons : Bool) (words : List Word) (w : Word)
    (rest : List Char) (hw : w.IsReadable) (h : AtBreak semicolons rest) :
    commandsFrom semicolons .between words (w.text.toList ++ rest) =
      commandsFrom semicolons .between (w :: words) rest := by
  cases w with
  | quoted s =>
    have hq : endsCommand semicolons '\x27' = false ∧ Text.isBlank '\x27' = false := by
      simpa [endsWord] using quote_not_endsWord semicolons
    have hr : rest.head? ≠ some '\x27' := by
      intro hr
      have := h '\x27' (by simp [hr])
      simp [quote_not_endsWord] at this
    have he := commandsFrom_escaped semicolons [] words s.toList rest hr
    simp only [Word.text, toList_quote, List.cons_append, List.append_assoc, List.nil_append]
    rw [commandsFrom, hq.1, hq.2]
    simpa using he
  | bare s =>
    have hp : IsPlain s := hw
    have hs := hp.not_endsWord semicolons
    cases hl : s.toList with
    | nil => exact absurd (String.toList_eq_nil_iff.mp hl) hp.1
    | cons c cs =>
      have hc : endsCommand semicolons c = false ∧ Text.isBlank c = false := by
        simpa [endsWord] using hs c (by simp [hl])
      have hn : c ≠ '\x27' := (hp.2 c (by simp [hl])).2.2
      have hcs : ∀ d ∈ cs, endsWord semicolons d = false := fun d hd => hs d (by simp [hl, hd])
      have hb : bareWord (cs.reverse ++ [c]) = .bare s := by simp [bareWord, ← hl]
      simp only [Word.text, hl, List.cons_append]
      rw [commandsFrom, hc.1, hc.2, if_neg (by simp), if_neg (by simp), if_neg hn,
        commandsFrom_bare semicolons [c] words cs rest hcs h, hb]

theorem toList_command_cons (w v : Word) (command : Command) :
    (Command.text (w :: v :: command)).toList =
      w.text.toList ++ ' ' :: (Command.text (v :: command)).toList := by
  simp [Command.text]

theorem toList_text_cons (c d : Command) (commands : List Command) :
    (text (c :: d :: commands)).toList =
      (Command.text c).toList ++ '\n' :: (text (d :: commands)).toList := by
  simp [text]

/-- The words of a command are read one after the other. -/
theorem commandsFrom_words (semicolons : Bool) (words : List Word) (command : Command)
    (rest : List Char) (hc : ∀ w ∈ command, w.IsReadable) (h : AtBreak semicolons rest) :
    commandsFrom semicolons .between words ((Command.text command).toList ++ rest) =
      commandsFrom semicolons .between (command.reverse ++ words) rest := by
  induction command generalizing words with
  | nil => simp [Command.text]
  | cons w command ih =>
    have hw := hc w (by simp)
    cases command with
    | nil =>
      have ht : Command.text [w] = w.text := by simp [Command.text]
      simpa [ht] using commandsFrom_word semicolons words w rest hw h
    | cons v command =>
      have hs : endsCommand semicolons ' ' = false ∧ Text.isBlank ' ' = true := by
        cases semicolons <;> decide
      rw [toList_command_cons, List.append_assoc, List.cons_append,
        commandsFrom_word semicolons words w _ hw (atBreak_space semicolons _), commandsFrom,
        hs.1, hs.2, if_neg (by simp), if_pos rfl, ih (w :: words) fun u hu => hc u (by simp [hu])]
      simp

/-- A script is read as the commands that it was written from. -/
theorem commands_text (semicolons : Bool) (commands : List Command)
    (h : ∀ c ∈ commands, IsReadable c) :
    commands? semicolons (text commands) = some commands := by
  unfold commands?
  induction commands with
  | nil => simp [text, commandsFrom, finished]
  | cons c commands ih =>
    obtain ⟨hn, hc⟩ := h c (by simp)
    cases commands with
    | nil =>
      have ht : text [c] = Command.text c := by simp [text]
      have hr := commandsFrom_words semicolons [] c [] hc (atBreak_nil semicolons)
      rw [List.append_nil, List.append_nil] at hr
      simp [ht, hr, commandsFrom, finished, hn]
    | cons d commands =>
      have he : endsCommand semicolons '\n' = true := by simp [endsCommand]
      rw [toList_text_cons, commandsFrom_words semicolons [] c _ hc (atBreak_newline semicolons _),
        commandsFrom, he, if_pos rfl, ih fun b hb => h b (by simp [hb])]
      simp [finished, hn]

/-- What a script runs, read to the bottom: commands, and the scripts that commands evaluate. -/
inductive Step where
  | run (command : Command)
  /-- The words before the script, and what the script runs. -/
  | evaluate (options : Command) (steps : List Step)

/-- What a command runs. The last word of `evaluate-commands` is a script, which `read` reads. -/
def stepOf? (read : String → Option (List Step)) (command : Command) : Option Step :=
  match command.getLast? with
  | some (.quoted script) =>
    if command.head? = some (.bare "evaluate-commands") then
      (read script).map (.evaluate command.dropLast)
    else some (.run command)
  | _ => some (.run command)

/-- What a script runs. Scripts inside it are read again down to a depth, and are words below. -/
def steps? (semicolons : Bool) : (depth : Nat) → String → Option (List Step)
  | 0, script => (commands? semicolons script).map (·.map .run)
  | depth + 1, script =>
    (commands? semicolons script).bind fun commands =>
      commands.mapM (stepOf? (steps? semicolons depth))

/-- Commands that are read as they are written and run `steps`, down to whatever depth scripts
inside them are read again. -/
structure Runs (semicolons : Bool) (commands : List Command) (steps : List Step) : Prop where
  readable : ∀ c ∈ commands, IsReadable c
  steps_eq : ∀ depth, commands.mapM (stepOf? (steps? semicolons depth)) = some steps

theorem Runs.nil (semicolons : Bool) : Runs semicolons [] [] := ⟨by simp, by simp⟩

theorem Runs.append {semicolons : Bool} {cs ds : List Command} {xs ys : List Step}
    (hc : Runs semicolons cs xs) (hd : Runs semicolons ds ys) :
    Runs semicolons (cs ++ ds) (xs ++ ys) := by
  constructor
  · intro c h
    rcases List.mem_append.mp h with h | h
    · exact hc.readable c h
    · exact hd.readable c h
  · intro depth
    simp [List.mapM_append, hc.steps_eq depth, hd.steps_eq depth]

/-- Every command is a step of its own. -/
theorem Runs.eq_nil_iff {semicolons : Bool} {commands : List Command} {steps : List Step}
    (h : Runs semicolons commands steps) : commands = [] ↔ steps = [] := by
  have hs := h.steps_eq 0
  cases commands with
  | nil => simpa using hs.symm
  | cons c commands =>
    obtain ⟨x, -, xs, -, hx⟩ : ∃ x, _ ∧ ∃ xs, _ ∧ [x] ++ xs = steps := by
      simpa [Option.bind_eq_some_iff] using hs
    simp [← hx]

/-- Whether a command is readable and evaluates no script. -/
def IsSimple (command : Command) : Prop :=
  IsReadable command ∧ command.head? ≠ some (.bare "evaluate-commands")

theorem stepOf_simple (read : String → Option (List Step)) {command : Command}
    (h : IsSimple command) : stepOf? read command = some (.run command) := by
  unfold stepOf?
  split
  · rw [if_neg h.2]
  · rfl

theorem runs_simple (semicolons : Bool) {commands : List Command}
    (h : ∀ c ∈ commands, IsSimple c) : Runs semicolons commands (commands.map .run) := by
  refine ⟨fun c hc => (h c hc).1, fun depth => ?_⟩
  induction commands with
  | nil => rfl
  | cons c commands ih =>
    have hc := stepOf_simple (steps? semicolons depth) (h c (by simp))
    simp [hc, ih fun d hd => h d (by simp [hd])]

/-- The commands of a script are run one after the other. -/
theorem steps_text {semicolons : Bool} {commands : List Command} {steps : List Step}
    (h : Runs semicolons commands steps) (depth : Nat) :
    steps? semicolons (depth + 1) (text commands) = some steps := by
  rw [steps?, commands_text semicolons commands h.readable]
  exact h.steps_eq depth

/-- A script without scripts inside is read at any depth. -/
theorem steps_simple (semicolons : Bool) {commands : List Command}
    (h : ∀ c ∈ commands, IsSimple c) (depth : Nat) :
    steps? semicolons depth (text commands) = some (commands.map .run) := by
  cases depth with
  | zero =>
    rw [steps?, commands_text semicolons commands fun c hc => (h c hc).1]
    rfl
  | succ depth => exact steps_text (runs_simple semicolons h) depth

theorem stepOf_evaluate (read : String → Option (List Step)) (options : Command)
    (script : String) :
    stepOf? read (.bare "evaluate-commands" :: options ++ [.quoted script]) =
      (read script).map (.evaluate (.bare "evaluate-commands" :: options)) := by
  have hd : (Word.bare "evaluate-commands" :: (options ++ [.quoted script])).dropLast =
      .bare "evaluate-commands" :: options := by
    rw [← List.cons_append, List.dropLast_concat]
  simp [stepOf?, List.getLast?_cons, hd]

theorem steps_one {read : String → Option (List Step)} {command : Command} {step : Step}
    (h : stepOf? read command = some step) : [command].mapM (stepOf? read) = some [step] := by
  simp [h]

/-- What is run in a client is a script inside the script. -/
theorem runs_tryClient (semicolons : Bool) {client : String} {commands : List Command}
    (hc : IsPlain client) (h : ∀ c ∈ commands, IsSimple c) :
    Runs semicolons [tryClient client commands]
      [.evaluate [.bare "evaluate-commands", .bare "-try-client", .bare client, .bare "--"]
        (commands.map .run)] := by
  constructor
  · have he : IsPlain "evaluate-commands" ∧ IsPlain "-try-client" ∧ IsPlain "--" := by decide
    simp [tryClient, IsReadable, Word.IsReadable, he, hc]
  · intro depth
    have hs := stepOf_evaluate (steps? semicolons depth)
      [.bare "-try-client", .bare client, .bare "--"] (text commands)
    rw [steps_simple semicolons h depth] at hs
    exact steps_one hs

def stepsFor (client : Option String) (steps : List Step) : List Step :=
  match client with
  | none => steps
  | some client =>
    if client = "" then steps
    else [.evaluate [.bare "evaluate-commands", .bare "-client", .quoted client, .bare "--"] steps]

/-- The script for a client runs in the client what the script runs. -/
theorem steps_forClient {semicolons : Bool} {commands : List Command} {steps : List Step}
    (h : Runs semicolons commands steps) (client : Option String) (depth : Nat) :
    steps? semicolons (depth + 2) (forClient client (text commands)) =
      some (stepsFor client steps) := by
  unfold forClient stepsFor
  cases client with
  | none => exact steps_text h (depth + 1)
  | some client =>
    by_cases hn : client = ""
    · simp only [hn, if_true]
      exact steps_text h (depth + 1)
    · let wrapper : Command :=
        [.bare "evaluate-commands", .bare "-client", .quoted client, .bare "--",
          .quoted (text commands)]
      have ht : Command.text wrapper = text [wrapper] := by simp [text]
      have he : IsPlain "evaluate-commands" ∧ IsPlain "-client" ∧ IsPlain "--" := by decide
      have hr : ∀ c ∈ [wrapper], IsReadable c := by
        simp [wrapper, IsReadable, Word.IsReadable, he]
      have hs := stepOf_evaluate (steps? semicolons (depth + 1))
        [.bare "-client", .quoted client, .bare "--"] (text commands)
      rw [steps_text h depth] at hs
      simp only [hn, if_false]
      change steps? semicolons (depth + 2) (Command.text wrapper) = _
      rw [ht, steps?, commands_text semicolons [wrapper] hr]
      exact steps_one hs

end EditorBridge.Script
