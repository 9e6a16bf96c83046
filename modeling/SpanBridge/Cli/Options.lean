import SpanBridge.Address
import SpanBridge.Number.Decimal

/-!
# Command line options

`Cli.parse` reads the arguments of a command line: one input file and options in any order. A long
option may be shortened as long as no other starts the same way, options of one letter may share a
dash, and a value follows its option or is attached to it. What comes after `--` is no option. An
option that `--` is attached to is given without its value.
-/

set_option autoImplicit false
set_option relaxedAutoImplicit false

namespace SpanBridge.Cli

/-! ### The options -/

/-- The options of the command. -/
inductive Switch where
  | help
  | output
  | localIp
  | detectLocalIp
  | indent
  | verbose
  | version
  deriving DecidableEq, Repr

def Switch.all : List Switch :=
  [.help, .output, .localIp, .detectLocalIp, .indent, .verbose, .version]

def Switch.spellings : Switch → List String
  | .help => ["-h", "--help"]
  | .output => ["-o", "--output"]
  | .localIp => ["--local-ip"]
  | .detectLocalIp => ["--detect-local-ip"]
  | .indent => ["--indent"]
  | .verbose => ["-v", "--verbose"]
  | .version => ["--version"]

def Switch.name (switch : Switch) : String := String.intercalate "/" switch.spellings

def Switch.takesValue : Switch → Bool
  | .output | .localIp | .indent => true
  | .help | .detectLocalIp | .verbose | .version => false

def spellings : List (String × Switch) :=
  Switch.all.flatMap fun switch ↦ switch.spellings.map (·, switch)

/-! ### Errors -/

/-- Why a command line cannot be understood. -/
inductive UsageError where
  | ambiguous (word : String) (candidates : List String)
  | valueExpected (switch : Switch)
  | valueIgnored (switch : Switch) (value : String)
  | notAllowedWith (switch other : Switch)
  | invalidAddress (text : String)
  | invalidIndent (text : String)
  | missingInput
  | unrecognized (words : List String)
  deriving DecidableEq, Repr

def aboutSwitch (switch : Switch) (message : String) : String :=
  "argument " ++ switch.name ++ ": " ++ message

def UsageError.message : UsageError → String
  | .ambiguous word candidates =>
    "ambiguous option: " ++ word ++ " could match " ++ String.intercalate ", " candidates
  | .valueExpected switch => aboutSwitch switch "expected one argument"
  | .valueIgnored switch value =>
    aboutSwitch switch ("ignored explicit argument " ++ Text.quoted value)
  | .notAllowedWith switch other =>
    aboutSwitch switch ("not allowed with argument " ++ other.name)
  | .invalidAddress text => aboutSwitch .localIp ("invalid IP address: " ++ text)
  | .invalidIndent text => aboutSwitch .indent ("invalid int value: " ++ Text.quoted text)
  | .missingInput => "the following arguments are required: input_file"
  | .unrecognized words => "unrecognized arguments: " ++ String.intercalate " " words

/-! ### Words -/

/-- A word of a command line. -/
inductive Word where
  | argument (text : String)
  | separator
  /-- An option by one of its spellings, and what is attached to it. -/
  | switch (switch : Switch) (spelling : String) (attached : Option (List Char))
  | unknown (text : String)
  deriving DecidableEq, Repr

/-- Whether a word is a negative number, which is an argument in spite of its dash. A line break may
end it. -/
def isNegativeNumber (chars : List Char) : Bool :=
  match chars with
  | '-' :: body =>
    let isDigit (c : Char) : Bool := (Text.decimalDigit? c).isSome
    let body := if body.getLast? = some '\n' then body.dropLast else body
    match body.dropWhile isDigit with
    | [] => !body.isEmpty
    | '.' :: decimals => !decimals.isEmpty && decimals.all isDigit
    | _ => false
  | _ => false

/-- Splits a word at its first equals sign. -/
def splitAtEquals (chars : List Char) : List Char × Option (List Char) :=
  match chars.dropWhile (· ≠ '=') with
  | [] => (chars, none)
  | _ :: attached => (chars.takeWhile (· ≠ '='), some attached)

/-- The options that a word may mean although it is no spelling of one: long options that start with
it, or the option of one letter with something attached. -/
def candidates (chars : List Char) : List Word :=
  match chars with
  | '-' :: '-' :: _ =>
    let (start, attached) := splitAtEquals chars
    spellings.filterMap fun (spelling, switch) ↦
      if start.isPrefixOf spelling.toList then some (.switch switch spelling attached) else none
  | _ =>
    spellings.filterMap fun (spelling, switch) ↦
      if spelling.toList = chars.take 2 then some (.switch switch spelling (some (chars.drop 2)))
      else none

/-- The spelling of an option in a word. -/
def Word.spelling? : Word → Option String
  | .switch _ spelling _ => some spelling
  | _ => none

/-- Finds out what a word before any separator is. -/
def classify (text : String) : Except UsageError Word :=
  let chars := text.toList
  if chars.head? ≠ some '-' then .ok (.argument text)
  else
    match spellings.lookup text with
    | some switch => .ok (.switch switch text none)
    | none =>
      if chars.length = 1 then .ok (.argument text)
      else
        let (start, attached) := splitAtEquals chars
        match spellings.lookup (String.ofList start), attached with
        | some switch, some attached =>
          .ok (.switch switch (String.ofList start) (some attached))
        | _, _ =>
          match candidates chars with
          | [word] => .ok word
          | [] =>
            if isNegativeNumber chars || chars.contains ' ' then .ok (.argument text)
            else .ok (.unknown text)
          | words => .error (.ambiguous text (words.filterMap Word.spelling?))

/-- Finds out what the words of a command line are. After a separator all are arguments. -/
def classifyAll : List String → Except UsageError (List Word)
  | [] => .ok []
  | text :: texts =>
    if text = "--" then .ok (.separator :: texts.map Word.argument)
    else return (← classify text) :: (← classifyAll texts)

/-! ### Options of one letter -/

/-- How a word with options ends. -/
inductive Ending where
  | nothing
  | value (switch : Switch) (text : String)
  | valueFollows (switch : Switch)
  deriving DecidableEq, Repr

/-- What a word with options comes to: options without values in order, and how it ends. -/
structure Expansion where
  switches : List Switch
  ending : Ending
  deriving DecidableEq, Repr

/-- An option that nothing is attached to. -/
def Expansion.single (switch : Switch) : Expansion :=
  if switch.takesValue then ⟨[], .valueFollows switch⟩ else ⟨[switch], .nothing⟩

/-- An option without a value before others. -/
def Expansion.cons (switch : Switch) (others : Expansion) : Expansion :=
  { others with switches := switch :: others.switches }

def shortSwitch? (c : Char) : Option Switch := spellings.lookup (String.ofList ['-', c])

/-- An option of one letter with something attached: its value, or more options of one letter. -/
def expandShort (switch : Switch) (attached : List Char) : Except UsageError Expansion :=
  if switch.takesValue then .ok ⟨[], .value switch (String.ofList attached)⟩
  else
    match attached with
    | [] => .error (.valueIgnored switch "")
    | c :: rest =>
      match shortSwitch? c, rest with
      | none, _ => .error (.valueIgnored switch (String.ofList (c :: rest)))
      | some next, [] => .ok (.cons switch (.single next))
      | some next, _ :: _ => (Expansion.cons switch) <$> expandShort next rest

/-- What the word of an option comes to. -/
def expand (switch : Switch) (spelling : String) : Option (List Char) →
    Except UsageError Expansion
  | none => .ok (.single switch)
  | some attached =>
    if switch.takesValue then .ok ⟨[], .value switch (String.ofList attached)⟩
    else if spelling.toList.length = 2 then expandShort switch attached
    else .error (.valueIgnored switch (String.ofList attached))

/-! ### Settings -/

/-- What a command line says about an option that takes a value. -/
inductive Setting (α : Type) where
  | absent
  /-- The option is given without its value. -/
  | blank
  | value (value : α)
  deriving DecidableEq, Repr

/-- The value of an option, if there is one. -/
def Setting.value? {α : Type} : Setting α → Option α
  | .value given => some given
  | .absent | .blank => none

/-- What the command is asked to do. -/
structure Settings where
  input : String
  output : Setting String
  localIp : Setting String
  detectLocalIp : Bool
  indent : Setting Int
  verbose : Bool
  deriving DecidableEq, Repr

/-- What has been understood so far. -/
structure Progress where
  input : Option String := none
  output : Setting String := .absent
  localIp : Setting String := .absent
  detectLocalIp : Bool := false
  indent : Setting Int := .absent
  verbose : Bool := false
  unrecognized : List String := []

/-- Why reading a command line stops before its end. -/
inductive Halt where
  | help
  | version
  | error (error : UsageError)

/-- Takes an option without a value into account. -/
def Progress.flag (progress : Progress) : Switch → Except Halt Progress
  | .help => .error .help
  | .version => .error .version
  | .verbose => .ok { progress with verbose := true }
  | .detectLocalIp =>
    if progress.localIp ≠ .absent then .error (.error (.notAllowedWith .detectLocalIp .localIp))
    else .ok { progress with detectLocalIp := true }
  | switch => .error (.error (.valueExpected switch))

/-- The setting for a text in the place of a value: a separator stands for no value, and any other
text is read. -/
def Setting.ofText {α : Type} (read : String → Except UsageError α) (text : String) :
    Except UsageError (Setting α) :=
  if text = "--" then .ok .blank else .value <$> read text

def readIndent (text : String) : Except UsageError Int :=
  match Number.readInteger? text with
  | some spaces => .ok spaces
  | none => .error (.invalidIndent text)

/-- Reads an address and gives its canonical text. -/
def readAddress (text : String) : Except UsageError String :=
  match Address.parse? text with
  | some address => .ok address.text
  | none => .error (.invalidAddress text)

/-- Takes an option with the text in the place of its value into account. -/
def Progress.value (progress : Progress) (switch : Switch) (text : String) :
    Except UsageError Progress :=
  match switch with
  | .output => return { progress with output := ← Setting.ofText .ok text }
  | .indent => return { progress with indent := ← Setting.ofText readIndent text }
  | .localIp => do
    let localIp ← Setting.ofText readAddress text
    if progress.detectLocalIp then throw (.notAllowedWith .localIp .detectLocalIp)
    else return { progress with localIp }
  | switch => .error (.valueIgnored switch text)

/-- Sets a word aside that means nothing. -/
def Progress.setAside (progress : Progress) (text : String) : Progress :=
  { progress with unrecognized := progress.unrecognized ++ [text] }

/-- Understands words in turn. The first argument is the input file; the separator counts as part of
it on either side, and means nothing elsewhere. -/
def understand (progress : Progress) : List Word → Except Halt Progress
  | [] => .ok progress
  | .argument text :: .separator :: rest =>
    if progress.input.isNone then understand { progress with input := some text } rest
    else understand ((progress.setAside text).setAside "--") rest
  | .argument text :: rest =>
    if progress.input.isNone then understand { progress with input := some text } rest
    else understand (progress.setAside text) rest
  | .separator :: .argument text :: rest =>
    if progress.input.isNone then understand { progress with input := some text } rest
    else understand ((progress.setAside "--").setAside text) rest
  | .separator :: rest => understand (progress.setAside "--") rest
  | .unknown text :: rest => understand (progress.setAside text) rest
  | .switch switch spelling attached :: rest => do
    let expansion ← (expand switch spelling attached).mapError Halt.error
    let flagged := expansion.switches.foldlM Progress.flag progress
    match expansion.ending, rest with
    | .nothing, rest => understand (← flagged) rest
    | .value switch text, rest =>
      understand (← ((← flagged).value switch text).mapError Halt.error) rest
    | .valueFollows switch, .argument text :: rest =>
      understand (← ((← flagged).value switch text).mapError Halt.error) rest
    | .valueFollows switch, _ => throw (.error (.valueExpected switch))

/-- The settings of a command line that has an input file and nothing unrecognized. -/
def Progress.settings (progress : Progress) : Except UsageError Settings :=
  match progress.input with
  | none => .error .missingInput
  | some input =>
    if progress.unrecognized.isEmpty then
      .ok {
        input
        output := progress.output
        localIp := progress.localIp
        detectLocalIp := progress.detectLocalIp
        indent := progress.indent
        verbose := progress.verbose }
    else .error (.unrecognized progress.unrecognized)

/-- Reads the arguments of a command line. -/
def parse (arguments : List String) : Except Halt Settings := do
  let words ← (classifyAll arguments).mapError Halt.error
  (← understand {} words).settings.mapError Halt.error

end SpanBridge.Cli
