import LedgerRules.Service.Rules

/-!
# The command that drafts rules

The command stores a detection rule for every account that no rule covers, or,
in a dry run, only tells which ones it would store.  Options may be shortened as
long as they are clear.
-/

namespace LedgerRules

namespace Command

/-- The options of the command. -/
inductive Choice where
  | help
  | dryRun
  | priority
deriving DecidableEq, Repr

/-- What the command is asked to do. -/
structure Options where
  dryRun : Bool := false
  priority : Option Int := none
deriving DecidableEq, Repr

/-- What the arguments amount to. -/
inductive Invocation where
  | help
  | misused
  | run (options : Options)
deriving DecidableEq, Repr

/-- The names of the options. -/
def names : List (String × Choice) :=
  [("-h", .help), ("--help", .help), ("--dry-run", .dryRun),
    ("--priority", .priority)]

/-- An argument on its own: a plain value, an option with the value written
behind an equals sign, an option that is not known, or the mark after which
everything is plain. -/
inductive Argument where
  | plain (text : String)
  | option (choice : Choice) (value? : Option String)
  | unknown
  | unclear
  | endOfOptions
deriving DecidableEq, Repr

def isNegativeNumber (text : String) : Bool :=
  let isDigit := fun (character : Char) => isDecimalDigit character.toNat
  match text.toList with
  | '-' :: rest =>
      let rest := if rest.getLast? = some '\n' then rest.dropLast else rest
      let whole := rest.takeWhile isDigit
      match rest.dropWhile isDigit with
      | [] => !whole.isEmpty
      | '.' :: digits => !digits.isEmpty && digits.all isDigit
      | _ => false
  | _ => false

/-- Splits a text at its first equals sign. -/
def splitValue (text : String) : String × Option String :=
  match text.toList.dropWhile (· ≠ '=') with
  | _ :: value =>
      (String.ofList (text.toList.takeWhile (· ≠ '=')),
      some (String.ofList value))
  | [] => (text, none)

/-- The options that a text may be short for, with the values behind them.
After the letter of the short option for help other letters may follow, which do
not count. -/
def candidates (text : String) : List (Choice × Option String) :=
  if text.startsWith "--" then
    let (start, value?) := splitValue text
    (names.filter fun name => name.1.startsWith start).map fun name =>
      (name.2, value?)
  else match text.toList with
    | '-' :: 'h' :: rest =>
        [(.help, if rest.head? = some '-' then
          some (String.ofList rest) else none)]
    | _ => []

/-- What an argument is, as long as no mark has ended the options. -/
def classify (text : String) : Argument :=
  if text = "--" then .endOfOptions
  else if !text.startsWith "-" || text = "-" then .plain text
  else match names.lookup text with
    | some choice => .option choice none
    | none =>
        let (start, value?) := splitValue text
        match value?, names.lookup start with
        | some value, some choice => .option choice (some value)
        | _, _ =>
            match candidates text with
            | [(choice, value?)] => .option choice value?
            | _ :: _ :: _ => .unclear
            | [] =>
                if isNegativeNumber text || text.contains ' ' then .plain text
                  else .unknown

/-- All arguments classified; those after the mark are plain. -/
def classifyAll : List String → List Argument
  | [] => []
  | text :: rest =>
      match classify text with
      | .endOfOptions => .endOfOptions :: rest.map .plain
      | argument => argument :: classifyAll rest

/-- Follows classified arguments from left to right.  `stray` tells whether one
came that nothing asks for. -/
def follow (stray : Bool) (options : Options) : List Argument → Invocation
  | [] => if stray then .misused else .run options
  | .option .help none :: _ => .help
  | .option .help (some _) :: _ => .misused
  | .option .dryRun none :: rest =>
      follow stray { options with dryRun := true } rest
  | .option .dryRun (some _) :: _ => .misused
  | .option .priority (some value) :: rest =>
      match wholeNumber? value with
      | some priority =>
        follow stray { options with priority := some priority } rest
      | none => .misused
  | .option .priority none :: .plain value :: rest =>
      match wholeNumber? value with
      | some priority =>
        follow stray { options with priority := some priority } rest
      | none => .misused
  | .option .priority none :: _ => .misused
  | .plain _ :: rest => follow true options rest
  | .unknown :: rest => follow true options rest
  | .endOfOptions :: rest => follow true options rest
  | .unclear :: _ => .misused

def read (arguments : List String) : Invocation :=
  let classified := classifyAll arguments
  if classified.contains .unclear then .misused else follow false {} classified

def draftLine (draft : RuleDraft) : String :=
  let words := match draft.conditions.field? "raw_text_contains" with
    | some (.arr items) => items.map Json.asText
    | _ => []
  "  " ++ draft.name ++ " -> [" ++ String.intercalate ", " words ++ "]\n"

/-- The last lines of the report. -/
def summary (dryRun : Bool) (count : Nat) : String :=
  if dryRun then "\nDry run: " ++ toString count ++ " rules would be created\n"
  else "\nTotal rules created: " ++ toString count ++ "\n"

/-- What came of the command: its report, and the number of rules with the store
afterwards, or the fault that ended it. -/
structure Report where
  printed : String
  result : Except StoreFault (Nat × Store)

/-- Drafts rules, reports them, and stores them unless it is a dry run.  A
priority that is asked for goes before that of the settings. -/
def generateUnder (settings : Settings) (options : Options) (store : Store) :
    Report :=
  let priority := options.priority.getD settings.detectionPriority
  match Service.draftRules priority settings.excludedTypes store with
  | .error fault => ⟨"", .error fault⟩
  | .ok drafts =>
      let lines := String.join (drafts.map draftLine)
      let count := drafts.length
      if options.dryRun || drafts.isEmpty then
        ⟨lines ++ summary options.dryRun count, .ok (count, store)⟩
      else match Service.committed (RuleSession.createAll drafts) store with
        | .ok (_, store) => ⟨lines ++ summary false count, .ok (count, store)⟩
        | .error fault => ⟨lines, .error fault⟩

def generate (options : Options) (store : Store) : Report :=
  generateUnder {} options store

/-- The start of the line that tells of a fault. -/
def faultLine : String := "Error:"

/-- The exit code after misuse. -/
def misuseCode : Nat := 2

/-- Runs the command on a store: the exit code, what is printed, and the store
afterwards. -/
def run (options : Options) (store : Store) : Nat × String × Store :=
  let report := generate options store
  match report.result with
  | .ok (_, store) => (0, report.printed, store)
  | .error _ => (1, report.printed ++ faultLine, store)

end Command

end LedgerRules
