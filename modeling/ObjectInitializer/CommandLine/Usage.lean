/-
**Reading a command line.**

A command line is read from left to right, and the first word that is wrong, or that asks for the
version or for help, settles it.  An option takes its value from the same word, behind `=`, or from
the next one, which then must not look like an option; the two short options also take it directly
behind their letter.  No option may be given twice, there are no other words, and behind `--`
nothing may follow.

Main definitions:

* `Usage.Key`, `Usage.Flag` — the options with and without a value;
* `Usage.Problem` — what can be wrong with a command line;
* `Usage.Request` — what a command line asks for;
* `Usage.read` — the request of a command line.
-/

import ObjectInitializer.CommandLine.Arguments

set_option relaxedAutoImplicit false
set_option autoImplicit false

namespace ObjectInitializer.Usage

/-! ### Options, problems and requests -/

/-- The options that take a value. -/
inductive Key where
  | inputFile
  | outputDirectory
  | className
  | spaces
  | lineEnding
  | baseIndent
  | memoryLimit
  | maxDepth
  deriving Repr, DecidableEq

/-- The long name of an option. -/
def Key.name : Key → String
  | .inputFile => "from"
  | .outputDirectory => "to"
  | .className => "class-name"
  | .spaces => "spaces"
  | .lineEnding => "line-ending"
  | .baseIndent => "base-indent"
  | .memoryLimit => "memory-limit"
  | .maxDepth => "max-depth"

/-- All options that take a value. -/
def Key.all : List Key :=
  [.inputFile, .outputDirectory, .className, .spaces, .lineEnding, .baseIndent, .memoryLimit,
   .maxDepth]

/-- The options that take no value. -/
inductive Flag where
  | standardInput
  | print
  | stats
  | verbose
  | quiet
  deriving Repr, DecidableEq

/-- The long name of a flag. -/
def Flag.name : Flag → String
  | .standardInput => "stdin"
  | .print => "print"
  | .stats => "stats"
  | .verbose => "verbose"
  | .quiet => "quiet"

/-- All options that take no value. -/
def Flag.all : List Flag :=
  [.standardInput, .print, .stats, .verbose, .quiet]

/-- What can be wrong with a command line. -/
inductive Problem where
  | unexpected (word : String)
  | repeated (name : String)
  | valueMissing (name : String)
  | valueRefused (name value : String)
  | valueNotTaken (name value : String)
  deriving Repr, DecidableEq

/-- What a command line asks for. -/
inductive Request where
  | run (arguments : Arguments)
  | version
  | help
  deriving Repr, DecidableEq

/-! ### Values -/

/-- The number that a text of digits is. -/
def readDigits? (cs : List Char) : Option Nat :=
  if cs.isEmpty || !cs.all Char.isDigit then none else some (Numeral.digitsValue 0 cs)

/-- A natural number below `bound`, which a plus may precede. -/
def readNatural? (bound : Nat) (text : String) : Option Nat :=
  let digits? :=
    match text.toList with
    | '+' :: cs => readDigits? cs
    | cs => readDigits? cs
  digits?.filter (· < bound)

/-- A natural number below `bound`, written as an integer of any sign. -/
def readInteger? (bound : Nat) (text : String) : Option Nat :=
  match text.toList with
  | '-' :: cs => (readDigits? cs).filter (· == 0)
  | _ => readNatural? bound text

/-- A path, which must not be empty. -/
def readPath? (text : String) : Option Path :=
  if text = "" then none else some text

/-- A line ending, by one of its two names. -/
def readLineEnding? (text : String) : Option LineEnding :=
  if text = "lf" then some .lf
  else if text = "crlf" then some .crlf
  else none

/-- The number of words of 64 bits. -/
def wordBound : Nat := 18446744073709551616

/-- Sets an option to the value that a text stands for. -/
def Key.set? (key : Key) (text : String) (arguments : Arguments) : Option Arguments :=
  match key with
  | .inputFile => (readPath? text).map fun path => { arguments with inputFile := some path }
  | .outputDirectory =>
    (readPath? text).map fun path => { arguments with outputDirectory := some path }
  | .className => some { arguments with className := text }
  | .spaces => (readInteger? 256 text).map fun n => { arguments with spaces := some n }
  | .lineEnding => (readLineEnding? text).map fun e => { arguments with lineEnding := e }
  | .baseIndent => (readNatural? wordBound text).map fun n => { arguments with baseIndent := n }
  | .memoryLimit => some { arguments with memoryLimit := some text }
  | .maxDepth => (readNatural? wordBound text).map fun n => { arguments with maxDepth := some n }

/-- Sets a flag. -/
def Flag.set (flag : Flag) (arguments : Arguments) : Arguments :=
  match flag with
  | .standardInput => { arguments with fromStandardInput := true }
  | .print => { arguments with print := true }
  | .stats => { arguments with stats := true }
  | .verbose => { arguments with verbose := true }
  | .quiet => { arguments with quiet := true }

/-! ### Reading -/

/-- A command line that has been read in part: the arguments so far, and the names of the options
that were given. -/
structure Draft where
  arguments : Arguments
  given : List String
  deriving Repr, DecidableEq

/-- Refuses an option that was given before. -/
def Draft.claim (draft : Draft) (name : String) : Except Problem (List String) :=
  if name ∈ draft.given then .error (.repeated name) else .ok (name :: draft.given)

/-- Takes an option with its value. -/
def Draft.takeValue (draft : Draft) (key : Key) (text : String) : Except Problem Draft := do
  let given ← draft.claim key.name
  match key.set? text draft.arguments with
  | some arguments => return ⟨arguments, given⟩
  | none => .error (.valueRefused key.name text)

/-- Takes a flag. -/
def Draft.takeFlag (draft : Draft) (flag : Flag) : Except Problem Draft := do
  let given ← draft.claim flag.name
  return ⟨flag.set draft.arguments, given⟩

/-- What a word of a command line is. -/
inductive Word where
  /-- An option that takes a value, with it if it stands in the same word. -/
  | key (key : Key) (value : Option String)
  | flag (flag : Flag)
  | version
  | help
  /-- The word `--`. -/
  | close
  | wrong (problem : Problem)
  deriving Repr, DecidableEq

/-- A long option without its two dashes: the text in front of the first `=`, and the text behind
it if there is one. -/
def splitEquals (cs : List Char) : String × Option String :=
  match cs.dropWhile (· != '=') with
  | [] => (String.ofList cs, none)
  | _ :: value => (String.ofList (cs.takeWhile (· != '=')), some (String.ofList value))

/-- What a long option is. -/
def Word.ofLong (word : String) (name : String) (value : Option String) : Word :=
  let bare (w : Word) : Word :=
    match value with
    | none => w
    | some value => .wrong (.valueNotTaken name value)
  match Key.all.find? (·.name = name), Flag.all.find? (·.name = name) with
  | some k, _ => .key k value
  | none, some f => bare (.flag f)
  | none, none =>
    if name = "version" then bare .version
    else if name = "help" then bare .help
    else .wrong (.unexpected word)

/-- The value that stands directly behind the letter of a short option, less one `=` between. -/
def attachedValue : List Char → Option String
  | [] => none
  | c :: cs => some (String.ofList (if c = '=' then cs else c :: cs))

/-- What a short option is. -/
def Word.ofShort (word : String) (letter : Char) (attached : List Char) : Word :=
  if letter = 'f' then .key .inputFile (attachedValue attached)
  else if letter = 't' then .key .outputDirectory (attachedValue attached)
  else if letter = 'V' then .version
  else if letter = 'h' then .help
  else .wrong (.unexpected word)

/-- What a word of a command line is. -/
def Word.of (word : String) : Word :=
  match word.toList with
  | ['-', '-'] => .close
  | '-' :: '-' :: cs => .ofLong word (splitEquals cs).1 (splitEquals cs).2
  | '-' :: c :: cs => .ofShort word c cs
  | _ => .wrong (.unexpected word)

/-- Whether a word can be the value of the option in front of it. -/
def canBeValue (word : String) : Bool :=
  word = "-" || word.toList.head? != some '-'

/-- Reads the rest of a command line. -/
def readFrom (draft : Draft) : List String → Except Problem Request
  | [] => .ok (.run draft.arguments)
  | word :: words =>
    match Word.of word with
    | .key key (some text) =>
      match draft.takeValue key text with
      | .ok draft => readFrom draft words
      | .error problem => .error problem
    | .key key none =>
      match words with
      | [] => .error (.valueMissing key.name)
      | text :: words =>
        if canBeValue text then
          match draft.takeValue key text with
          | .ok draft => readFrom draft words
          | .error problem => .error problem
        else .error (.valueMissing key.name)
    | .flag flag =>
      match draft.takeFlag flag with
      | .ok draft => readFrom draft words
      | .error problem => .error problem
    | .version => .ok .version
    | .help => .ok .help
    | .close =>
      match words with
      | [] => .ok (.run draft.arguments)
      | word :: _ => .error (.unexpected word)
    | .wrong problem => .error problem

/-- The request of a command line. -/
def read (words : List String) : Except Problem Request :=
  readFrom ⟨.standard, []⟩ words

end ObjectInitializer.Usage
