import TaggedSuite.Text.Digit

/-!
# Reading arguments

A command has options, each with one or more names, and may take other arguments besides. An option
is given by a name, by a beginning of a long name that no other one shares, or by a letter among
others behind a single hyphen. Its value is the next argument or stands behind an equals sign.
Whether an argument is an option is settled for all of them before the first one has an effect.
-/
namespace TaggedSuite

structure CommandOption (κ : Type) where
  names : List String
  takesValue : Bool
  key : κ

/-- Which arguments besides options a command takes. -/
inductive Operands where
  | none
  /-- The arguments of the first run of them. -/
  | anyNumber
  /-- The name of a command, with everything that follows it. -/
  | command
  deriving DecidableEq, Repr

structure ArgumentTable (κ : Type) where
  options : List (CommandOption κ)
  operands : Operands

structure NamedOption (κ : Type) where
  isShort : Bool
  takesValue : Bool
  key : κ
  /-- What stands behind the name in the same argument. -/
  attached? : Option (List Char)

/-- An argument as what it is taken for. -/
inductive Argument (κ : Type) where
  | operand (text : String)
  | option (text : String) (o : NamedOption κ)
  /-- An argument in the form of an option that the command does not have. -/
  | unknown (text : String)

/-- What an argument has an effect on. -/
inductive ArgumentEffect (κ : Type) where
  | flag (key : κ)
  | value (key : κ) (text : String)
  | operands (texts : List String)
  deriving Repr

/-- What came of reading: the effects in order, the arguments that were left over, and whether
reading broke off at a mistake. -/
structure ArgumentReading (κ : Type) where
  effects : List (ArgumentEffect κ)
  extras : List String
  isBroken : Bool

namespace ArgumentReading

def nothing {κ : Type} : ArgumentReading κ := ⟨[], [], false⟩

def broken {κ : Type} : ArgumentReading κ := ⟨[], [], true⟩

/-- Puts effects and left-over arguments in front. -/
def after {κ : Type} (effects : List (ArgumentEffect κ)) (extras : List String)
    (r : ArgumentReading κ) : ArgumentReading κ :=
  ⟨effects ++ r.effects, extras ++ r.extras, r.isBroken⟩

end ArgumentReading

namespace ArgumentTable

variable {κ : Type}

/-- Whether a name begins with a single hyphen. -/
def isShortName (name : List Char) : Bool := name.head? == some '-' && name[1]? != some '-'

/-- All names with their options. -/
def named (t : ArgumentTable κ) : List (List Char × CommandOption κ) :=
  t.options.flatMap fun o => o.names.map fun n => (n.toList, o)

def name (n : List Char) (o : CommandOption κ) (attached? : Option (List Char)) : NamedOption κ :=
  ⟨isShortName n, o.takesValue, o.key, attached?⟩

/-- The name before an equals sign, and what stands behind it. -/
def splitAtEquals (cs : List Char) : List Char × Option (List Char) :=
  match cs.dropWhile (· != '=') with
  | [] => (cs, none)
  | _ :: rest => (cs.takeWhile (· != '='), some rest)

/-- The options that an argument may name by the beginning of a name. -/
def abbreviated (t : ArgumentTable κ) (cs : List Char) : List (NamedOption κ) :=
  if isShortName cs then
    t.named.filterMap fun (n, o) =>
      if n = cs.take 2 then some (name n o (some (cs.drop 2)))
      else if cs.isPrefixOf n then some (name n o none)
      else none
  else
    let (start, attached?) := splitAtEquals cs
    (t.named.filter fun e => start.isPrefixOf e.1).map fun e => name e.1 e.2 attached?

/-- Whether the characters are digits and nothing else, at least one. -/
def areDigits (cs : List Char) : Bool := !cs.isEmpty && cs.all Text.isDigit

/-- Whether the characters write a negative number. One line feed may follow. -/
def isNegativeNumber (cs : List Char) : Bool :=
  let number := if cs.getLast? = some '\n' then cs.dropLast else cs
  match number with
  | '-' :: rest =>
    areDigits rest ||
      (match rest.dropWhile Text.isDigit with
        | '.' :: fraction => areDigits fraction
        | _ => false)
  | _ => false

/-- What an argument is taken for. None if it may name several options. -/
def classify (t : ArgumentTable κ) (text : String) : Option (Argument κ) :=
  let cs := text.toList
  let (start, attached?) := splitAtEquals cs
  if cs.head? != some '-' then some (.operand text)
  else
    match t.named.find? fun e => e.1 = cs with
    | some (n, o) => some (.option text (name n o none))
    | none =>
      if cs.length = 1 then some (.operand text)
      else
        match t.named.find? fun e => attached?.isSome && e.1 = start with
        | some (n, o) => some (.option text (name n o attached?))
        | none =>
          match t.abbreviated cs with
          | [o] => some (.option text o)
          | _ :: _ :: _ => none
          | [] =>
            some (if isNegativeNumber cs || cs.contains ' ' then .operand text else .unknown text)

def text : Argument κ → String
  | .operand s => s
  | .option s _ => s
  | .unknown s => s

/-- Whether an argument is no option. -/
def isOperand : Argument κ → Bool
  | .operand _ => true
  | _ => false

/-- What the letters behind a single hyphen mean, from the option on that the first one names: the
effects, and an option whose value has to follow. None if a letter names no option. -/
def letters (t : ArgumentTable κ) (o : NamedOption κ) :
    List Char → Option (List (ArgumentEffect κ) × Option κ)
  | [] => some (if o.takesValue then ([], some o.key) else ([.flag o.key], none))
  | c :: rest =>
    if o.takesValue then some ([.value o.key (String.ofList (c :: rest))], none)
    else do
      let (n, next) ← t.named.find? fun e => e.1 = ['-', c]
      let (effects, open?) ← letters t (name n next none) rest
      return (.flag o.key :: effects, open?)

/-- What an argument that names an option means: its effects, and an option whose value has to
follow. What stands behind a letter that takes no value is read as more letters, even if there is an
equals sign between them. None if there is a mistake. -/
def meaning (t : ArgumentTable κ) (o : NamedOption κ) :
    Option (List (ArgumentEffect κ) × Option κ) :=
  match o.attached? with
  | none => t.letters o []
  | some attached =>
    if o.takesValue then some ([.value o.key (String.ofList attached)], none)
    else if o.isShort && !attached.isEmpty then t.letters o attached
    else none

/-- Reads arguments from an option on; `taken` tells whether there were operands before. The number
bounds the arguments. -/
def consume (t : ArgumentTable κ) : Nat → Bool → List (Argument κ) → ArgumentReading κ
  | 0, _, _ => .nothing
  | n + 1, taken, arguments =>
    let operands := arguments.takeWhile isOperand
    let rest := arguments.drop operands.length
    if rest.isEmpty && operands.isEmpty then .nothing
    else if !operands.isEmpty then
      match t.operands, taken with
      | .command, false => ⟨[.operands (arguments.map text)], [], false⟩
      | .anyNumber, false => (consume t n true rest).after [.operands (operands.map text)] []
      | _, _ => (consume t n taken rest).after [] (operands.map text)
    else
      match rest with
      | .option _ o :: rest =>
        match t.meaning o, rest with
        | some (effects, none), rest => (consume t n taken rest).after effects []
        | some (effects, some key), .operand value :: rest =>
          (consume t n taken rest).after (effects ++ [.value key value]) []
        | _, _ => .broken
      | other :: rest => (consume t n taken rest).after [] [text other]
      | [] => .nothing

def read (t : ArgumentTable κ) (arguments : List String) : ArgumentReading κ :=
  match arguments.mapM t.classify with
  | some classified => t.consume (classified.length + 1) false classified
  | none => .broken

end ArgumentTable

end TaggedSuite
