import Turnstile.Text.Digit
import Turnstile.Text.Quoted

/-! The arguments of the program. Long options may be cut short as long as one option alone
starts that way, a value may be attached with an equals sign, and nothing behind a double
dash is an option. -/
namespace Turnstile.CommandLine

/-- Options that are given or not. -/
inductive Switch where
  | rules
  | listFormats
  | noFailExit
  | quiet
  | verbose
  deriving DecidableEq, Repr

/-- Options that take a value. -/
inductive Slot where
  | file
  | format
  | json
  | config
  deriving DecidableEq, Repr

inductive Keyword where
  | help
  | slot (slot : Slot)
  | switch (switch : Switch)
  deriving DecidableEq, Repr

namespace Keyword

def all : List Keyword :=
  [help, slot .file, slot .format, switch .rules, slot .json, slot .config, switch .listFormats,
    switch .noFailExit, switch .quiet, switch .verbose]

def spellings : Keyword → List String
  | help => ["-h", "--help"]
  | slot .file => ["--file"]
  | slot .format => ["--format"]
  | slot .json => ["--json"]
  | slot .config => ["--config"]
  | switch .rules => ["--rules"]
  | switch .listFormats => ["--list-formats"]
  | switch .noFailExit => ["--no-fail-exit"]
  | switch .quiet => ["--quiet"]
  | switch .verbose => ["--verbose"]

/-- All spellings with what they stand for. -/
def table : List (String × Keyword) :=
  all.flatMap fun k => k.spellings.map fun s => (s, k)

def ofSpelling? (text : String) : Option Keyword :=
  (table.find? (·.1 = text)).map (·.2)

end Keyword

inductive UsageError where
  | ambiguous (argument : String) (spellings : List String)
  | valueExpected (slot : Slot)
  | valueIgnored (keyword : Keyword) (value : String)
  | unrecognized (arguments : List String)
  | nothingToProve
  deriving DecidableEq, Repr

def Keyword.name (k : Keyword) : String :=
  "/".intercalate k.spellings

def UsageError.message : UsageError → String
  | ambiguous argument spellings =>
    "ambiguous option: " ++ argument ++ " could match " ++ ", ".intercalate spellings
  | valueExpected slot => "argument " ++ (Keyword.slot slot).name ++ ": expected one argument"
  | valueIgnored keyword value =>
    "argument " ++ keyword.name ++ ": ignored explicit argument " ++ Text.quote value
  | unrecognized arguments => "unrecognized arguments: " ++ " ".intercalate arguments
  | nothingToProve => "a sequent or --file is required"

/-- What an argument is by itself. -/
inductive Argument where
  | keyword (keyword : Keyword) (attached : Option String)
  /-- Something that looks like an option and is none. -/
  | unknown (text : String)
  | value (text : String)
  /-- The double dash that ends the options. -/
  | ending
  deriving DecidableEq, Repr

/-- A text up to its first equals sign, and what stands behind that. -/
def splitAttached (argument : String) : String × Option String :=
  let head := argument.toList.takeWhile (· ≠ '=')
  match argument.toList.drop head.length with
  | _ :: value => (String.ofList head, some (String.ofList value))
  | [] => (argument, none)

/-- Whether a text is a minus sign and a number with or without a fraction. A line end may
follow. -/
def isNegativeNumber (chars : List Char) : Bool :=
  let body := if chars.getLast? = some '\n' then chars.dropLast else chars
  match body with
  | '-' :: number =>
    let whole := number.takeWhile Text.isDigit
    match number.drop whole.length with
    | [] => !whole.isEmpty
    | '.' :: fraction => !fraction.isEmpty && fraction.all Text.isDigit
    | _ => false
  | _ => false

/-- What counts as attached to the one-letter option for help, given the characters behind it.
The letter may be repeated. -/
def attachedToHelp? (chars : List Char) : Option String :=
  match chars.dropWhile (· = 'h') with
  | [] => none
  | rest => some (String.ofList rest)

/-- What is attached behind an equals sign to an option that is spelled out. Behind the
one-letter option more letters for help may follow. -/
def attachedTo (spelling value : String) : Option String :=
  if spelling = "-h" && value ≠ "" then attachedToHelp? value.toList else some value

/-- The options that an argument may stand for without spelling one out. -/
def candidates (argument : String) : List (String × Keyword × Option String) :=
  match argument.toList with
  | '-' :: '-' :: _ =>
    let (head, attached) := splitAttached argument
    (Keyword.table.filter fun (s, _) => head.toList.isPrefixOf s.toList).map fun (s, k) =>
      (s, k, attached)
  | '-' :: c :: tail =>
    if c = 'h' then [("-h", .help, attachedToHelp? tail)] else []
  | _ => []

def classify (argument : String) : Except UsageError Argument :=
  if argument.toList.head? ≠ some '-' then .ok (.value argument)
  else
    match Keyword.ofSpelling? argument with
    | some k => .ok (.keyword k none)
    | none =>
      if argument = "-" then .ok (.value argument)
      else
        let (head, attached) := splitAttached argument
        match attached, Keyword.ofSpelling? head with
        | some value, some k => .ok (.keyword k (attachedTo head value))
        | _, _ =>
          match candidates argument with
          | [(_, k, attached)] => .ok (.keyword k attached)
          | [] =>
            if isNegativeNumber argument.toList || argument.toList.contains ' ' then
              .ok (.value argument)
            else .ok (.unknown argument)
          | several => .error (.ambiguous argument (several.map (·.1)))

/-- Nothing behind a double dash is an option. -/
def classifyAll : List String → Except UsageError (List Argument)
  | [] => .ok []
  | argument :: rest =>
    if argument = "--" then .ok (.ending :: rest.map .value)
    else
      match classify argument with
      | .error e => .error e
      | .ok first => (classifyAll rest).map (first :: ·)

/-- The file to read sequents from. -/
inductive FileChoice where
  | none
  | given (path : String)
  /-- A file was asked for, but its name was dropped. -/
  | nameless
  deriving DecidableEq, Repr

structure Options where
  sequent : Option String := none
  file : FileChoice := .none
  format : Option String := none
  json : Option String := none
  config : Option String := none
  rules : Bool := false
  listFormats : Bool := false
  noFailExit : Bool := false
  quiet : Bool := false
  verbose : Bool := false
  deriving DecidableEq, Repr

/-- Why the arguments ask for nothing that could be run. -/
inductive Stop where
  | help
  | usage (error : UsageError)
  deriving DecidableEq, Repr

namespace Options

def turnOn (o : Options) : Switch → Options
  | .rules => { o with rules := true }
  | .listFormats => { o with listFormats := true }
  | .noFailExit => { o with noFailExit := true }
  | .quiet => { o with quiet := true }
  | .verbose => { o with verbose := true }

def fill (o : Options) (slot : Slot) (value : String) : Options :=
  match slot with
  | .file => { o with file := .given value }
  | .format => { o with format := some value }
  | .json => { o with json := some value }
  | .config => { o with config := some value }

/-- Gives an option without a value, which for all but the file is as good as an empty one. -/
def fillBlank (o : Options) (slot : Slot) : Options :=
  match slot with
  | .file => { o with file := .nameless }
  | slot => o.fill slot ""

/-- Gives an option the value that is attached to it. A double dash is dropped. -/
def fillAttached (o : Options) (slot : Slot) (value : String) : Options :=
  if value = "--" then o.fillBlank slot else o.fill slot value

/-- The options found so far, whether the sequent came last, and what is left over. -/
structure Progress where
  options : Options := {}
  afterSequent : Bool := false
  leftOver : List String := []
  deriving DecidableEq, Repr

namespace Progress

def set (p : Progress) (options : Options) : Progress :=
  { p with options, afterSequent := false }

def leave (p : Progress) (text : String) : Progress :=
  { p with afterSequent := false, leftOver := p.leftOver ++ [text] }

/-- The first value is the sequent. -/
def take (p : Progress) (text : String) : Progress :=
  if p.options.sequent.isSome then p.leave text
  else { p with options.sequent := some text, afterSequent := true }

/-- A double dash is left over unless the sequent comes right before or after it. -/
def pass (p : Progress) : Progress :=
  if p.options.sequent.isSome && !p.afterSequent then p.leave "--"
  else { p with afterSequent := false }

end Progress

def interpret (p : Progress) : List Argument → Except Stop Progress
  | [] => .ok p
  | .keyword .help none :: _ => .error .help
  | .keyword (.switch s) none :: rest => interpret (p.set (p.options.turnOn s)) rest
  | .keyword (.slot s) (some value) :: rest =>
    interpret (p.set (p.options.fillAttached s value)) rest
  | .keyword (.slot s) none :: .value text :: rest =>
    interpret (p.set (p.options.fill s text)) rest
  | .keyword (.slot s) none :: _ => .error (.usage (.valueExpected s))
  | .keyword k (some value) :: _ => .error (.usage (.valueIgnored k value))
  | .unknown text :: rest => interpret (p.leave text) rest
  | .value text :: rest => interpret (p.take text) rest
  | .ending :: rest => interpret p.pass rest

/-- Reads the arguments. What is left over is complained about last. -/
def parse (arguments : List String) : Except Stop Options :=
  match classifyAll arguments with
  | .error e => .error (.usage e)
  | .ok classified =>
    match interpret {} classified with
    | .error stop => .error stop
    | .ok p =>
      if p.leftOver.isEmpty then .ok p.options else .error (.usage (.unrecognized p.leftOver))

end Options

end Turnstile.CommandLine
