import KeyChords.Debug.Settings
import KeyChords.Text.Quoted

/-! # Command line options

The words of a command line are sorted into options, plain words and the mark that ends the options;
then the options are taken in order with their values. A long option may be shortened to a beginning
that no other option shares. A value stands in the same word, behind an equals sign or directly
behind a short option, or it is the next plain word. Words that mean nothing are collected and
refused at the end.

The mark that ends the options is no value: an option that is given it in its own word is left with
an empty list in the place of a value.
-/

namespace KeyChords.Cli

open Debug Text

/-- **The options of the program.** -/
inductive Name where
  | help
  | out
  | keymap
  | leader
  | noTyping
  | check
  | debug
  | color
  deriving DecidableEq, Repr

/-- How many values an option takes. -/
inductive Arity where
  | none
  | one
  | optional
  deriving DecidableEq, Repr

namespace Name

/-- Every option, in the order of the help text. -/
def all : List Name := [.help, .out, .keymap, .leader, .noTyping, .check, .debug, .color]

/-- The spellings of an option, the short one first. -/
def spellings : Name → List String
  | .help => ["-h", "--help"]
  | .out => ["-o", "--out"]
  | .keymap => ["-k", "--keymap"]
  | .leader => ["-l", "--leader"]
  | .noTyping => ["--no-typing"]
  | .check => ["-c", "--check"]
  | .debug => ["-d", "--debug"]
  | .color => ["--color"]

/-- How many values each option takes. -/
def arity : Name → Arity
  | .help | .noTyping => .none
  | .debug => .optional
  | _ => .one

/-- The option of a spelling. -/
def ofSpelling? (spelling : String) : Option Name :=
  all.find? fun name => spelling ∈ name.spellings

/-- The spellings of an option, as messages show it. -/
def shown (name : Name) : String :=
  "/".intercalate name.spellings

end Name

/-- Every spelling with its option. -/
def spellingTable : List (String × Name) :=
  Name.all.flatMap fun name => name.spellings.map (·, name)

/-- The mark that ends the options. -/
def endOfOptions : String := "--"

/-- **What an option is given.** -/
inductive Given where
  | text (value : String)
  /-- The empty list, when nothing but the mark that ends the options was given. -/
  | emptied
  deriving DecidableEq, Repr

namespace Given

/-- What an option is given by a word. -/
def ofWord (word : String) : Given :=
  if word = endOfOptions then .emptied else .text word

/-- The kind of an empty list, as messages name it. -/
def emptyKind : String := "list"

/-- What an option is given, as messages show it. -/
def shown : Given → String
  | .text value => quoted value
  | .emptied => "[]"

/-- What an option is given as an optional value, for which nothing counts as empty text. -/
def orEmpty : Given → String
  | .text value => value
  | .emptied => ""

end Given

/-- The keymap that is compiled when none is named. -/
def stockTarget : String := "keybindings_compiler.keymap:build_keymap"

/-- **What a command line asks for.** -/
structure Options where
  out : Option Given := none
  keymap : Given := .text stockTarget
  leaders : List Given := []
  noTyping : Bool := false
  check : Option Given := none
  debug : List String := []
  color : Given := .text ColorMode.auto.name
  deriving DecidableEq, Repr

/-- **Why a command line is refused.** -/
inductive UsageFault where
  | unrecognized (words : List String)
  | missingValue (name : Name)
  | ignoredValue (name : Name) (value : String)
  | badChoice (name : Name) (value : String) (choices : List String)
  | ambiguous (word : String) (spellings : List String)
  deriving DecidableEq, Repr

/-- The wording of a refusal. -/
def UsageFault.message : UsageFault → String
  | .unrecognized words => "unrecognized arguments: " ++ " ".intercalate words
  | .missingValue name => "argument " ++ name.shown ++ ": expected one argument"
  | .ignoredValue name value =>
    "argument " ++ name.shown ++ ": ignored explicit argument " ++ quoted value
  | .badChoice name value choices =>
    "argument " ++ name.shown ++ ": invalid choice: " ++ quoted value ++ " (choose from " ++
      ", ".intercalate (choices.map quoted) ++ ")"
  | .ambiguous word spellings =>
    "ambiguous option: " ++ word ++ " could match " ++ ", ".intercalate spellings

/-- **Why a command line gives no options.** -/
inductive Stop where
  | help
  | refused (fault : UsageFault)
  deriving DecidableEq, Repr

/-- **What stands in the word of an option** behind its spelling. -/
inductive Attached where
  | nothing
  | assigned (value : List Char)
  /-- Characters behind a short option, with or without an equals sign between: its value, or
  further short options. -/
  | joined (rest : List Char)
  deriving DecidableEq, Repr

/-- **What a word is.** -/
inductive Word where
  | plain
  | option (name : Name) (attached : Attached)
  | unknown
  deriving DecidableEq, Repr

/-- A word up to its first equals sign, and what is attached behind it. -/
def splitValue (word : List Char) : List Char × Attached :=
  let spelling := word.takeWhile (· ≠ '=')
  match word.dropWhile (· ≠ '=') with
  | [] => (word, .nothing)
  | _ :: value =>
    (spelling, if ['-', '-'] <+: spelling then .assigned value else .joined value)

/-- The options that a word may stand for, each with its spelling and what is attached: long options
that begin like the word, or a short option with something directly behind it. -/
def candidates (word : List Char) : List (String × Name × Attached) :=
  match word with
  | '-' :: '-' :: _ =>
    let (beginning, attached) := splitValue word
    (spellingTable.filter fun entry => beginning <+: entry.1.toList).map
      fun (spelling, name) => (spelling, name, attached)
  | '-' :: letter :: rest =>
    (spellingTable.filter fun entry => entry.1.toList = ['-', letter]).map
      fun (spelling, name) => (spelling, name, .joined rest)
  | _ => []

/-- Whether all characters are decimal digits, of whatever script. -/
def areDecimal (chars : List Char) : Bool :=
  chars.all fun c => (decimalValue? c).isSome

/-- Whether a word is a negative number, possibly with a line feed behind it. -/
def isNegativeNumber (word : List Char) : Bool :=
  match word with
  | '-' :: rest =>
    let number := if rest.getLast? = some '\n' then rest.dropLast else rest
    let whole := number.takeWhile (· ≠ '.')
    match number.dropWhile (· ≠ '.') with
    | [] => !whole.isEmpty && areDecimal whole
    | _ :: fraction => areDecimal whole && !fraction.isEmpty && areDecimal fraction
  | _ => false

/-- Sorts a word that spells no option: it may stand for one, and must not stand for several. -/
def classifyInexact (word : List Char) : Except UsageFault Word :=
  match candidates word with
  | [(_, name, attached)] => .ok (.option name attached)
  | [] => .ok (if isNegativeNumber word || ' ' ∈ word then .plain else .unknown)
  | several => .error (.ambiguous (String.ofList word) (several.map Prod.fst))

/-- Sorts a word. A single hyphen is a plain word, and so is a negative number or a word with a
space that no option fits. -/
def classify (word : String) : Except UsageFault Word :=
  match word.toList with
  | '-' :: letter :: rest =>
    match Name.ofSpelling? word with
    | some name => .ok (.option name .nothing)
    | none =>
      let (spelling, attached) := splitValue ('-' :: letter :: rest)
      match Name.ofSpelling? (String.ofList spelling) with
      | some name => .ok (.option name attached)
      | none => classifyInexact ('-' :: letter :: rest)
  | _ => .ok .plain

/-- Sorts the words of a command line. The mark that ends the options has no meaning of its own, and
no option takes it as a value. -/
def classifyAll : List String → Except UsageFault (List (String × Word))
  | [] => .ok []
  | word :: rest =>
    if word = endOfOptions then .ok ((word, .unknown) :: rest.map (·, .plain))
    else
      match classify word with
      | .error fault => .error fault
      | .ok kind =>
        match classifyAll rest with
        | .error fault => .error fault
        | .ok others => .ok ((word, kind) :: others)

/-- The last option of a word, with its value if that stands in the word as well. -/
inductive Ending where
  | valued (name : Name) (value : String)
  | bare (name : Name)
  deriving DecidableEq, Repr

/-- The options of a word in which characters stand behind a short option: those that take no value,
and the ending. -/
def endJoined (name : Name) : List Char → Except UsageFault (List Name × Ending)
  | [] =>
    if name.arity = .none then .error (.ignoredValue name "") else .ok ([], .valued name "")
  | letter :: rest =>
    if name.arity ≠ .none then .ok ([], .valued name (String.ofList (letter :: rest)))
    else
      match Name.ofSpelling? (String.ofList ['-', letter]), rest with
      | none, _ => .error (.ignoredValue name (String.ofList (letter :: rest)))
      | some other, [] => .ok ([name], .bare other)
      | some other, rest =>
        (fun (names, ending) => (name :: names, ending)) <$> endJoined other rest

/-- The options of a word: those that take no value, and the ending. -/
def endOf (name : Name) : Attached → Except UsageFault (List Name × Ending)
  | .nothing => .ok ([], .bare name)
  | .assigned value =>
    if name.arity = .none then .error (.ignoredValue name (String.ofList value))
    else .ok ([], .valued name (String.ofList value))
  | .joined rest => endJoined name rest

/-- The colour modes that an option may name. -/
def colorChoices : List String := ColorMode.all.map ColorMode.name

/-- Takes an option with its value; an optional value that is missing counts as an empty one. -/
def Options.take (options : Options) (name : Name) (value : Option String) :
    Except Stop Options :=
  let given := Given.ofWord (value.getD "")
  match name with
  | .help => .error .help
  | .out => .ok { options with out := some given }
  | .keymap => .ok { options with keymap := given }
  | .leader => .ok { options with leaders := options.leaders ++ [given] }
  | .noTyping => .ok { options with noTyping := true }
  | .check => .ok { options with check := some given }
  | .debug => .ok { options with debug := options.debug ++ [given.orEmpty] }
  | .color =>
    match given with
    | .emptied => .ok { options with color := given }
    | .text mode =>
      if mode ∈ colorChoices then .ok { options with color := given }
      else .error (.refused (.badChoice .color mode colorChoices))

/-- Takes options with their values in order. -/
def Options.takeAll (options : Options) (given : List (Name × Option String)) :
    Except Stop Options :=
  given.foldlM (fun options (name, value) => options.take name value) options

/-- Takes the options of sorted words in order, and collects the words that mean nothing. An option
whose value is not in its own word looks for it in the next word. -/
def readWords (options : Options) (extras : List String) :
    List (String × Word) → Except Stop (Options × List String)
  | [] => .ok (options, extras)
  | (_, .option name attached) :: rest =>
    match endOf name attached with
    | .error fault => .error (.refused fault)
    | .ok (names, ending) =>
      let first := names.map fun name => (name, (none : Option String))
      match ending with
      | .valued last value =>
        match options.takeAll (first ++ [(last, some value)]) with
        | .error stop => .error stop
        | .ok next => readWords next extras rest
      | .bare last =>
        match last.arity, rest with
        | .one, (value, .plain) :: left | .optional, (value, .plain) :: left =>
          match options.takeAll (first ++ [(last, some value)]) with
          | .error stop => .error stop
          | .ok next => readWords next extras left
        | .one, _ => .error (.refused (.missingValue last))
        | _, rest =>
          match options.takeAll (first ++ [(last, none)]) with
          | .error stop => .error stop
          | .ok next => readWords next extras rest
  | (word, _) :: rest => readWords options (extras ++ [word]) rest

/-- **The options of a command line.** -/
def Options.read (argv : List String) : Except Stop Options :=
  match classifyAll argv with
  | .error fault => .error (.refused fault)
  | .ok words =>
    match readWords {} [] words with
    | .error stop => .error stop
    | .ok (options, []) => .ok options
    | .ok (_, extras) => .error (.refused (.unrecognized extras))

end KeyChords.Cli
