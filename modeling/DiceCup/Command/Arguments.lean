/-!
# Arguments — the options and words of a command line

An argument is an option if it starts with a hyphen and goes on.  An option is given by its name
behind two hyphens or by its letter behind one; its value is attached to it or is the next argument.
Two hyphens alone end the options.  `Arguments.scan` tells options from words and leaves their
meaning to the command.
-/

namespace DiceCup

inductive Takes where
  | nothing
  /-- The value does not look like an option, unless it is attached. -/
  | word
  /-- Whatever comes next is the value. -/
  | anything
deriving DecidableEq, Repr

structure KnownOption where
  name : String
  letter : Option Char := none
  takes : Takes := .word
deriving DecidableEq, Repr

inductive ArgumentForm where
  | word
  | named (name : String) (attached : Option String)
  | lettered (letter : Char) (attached : Option String)
deriving DecidableEq, Repr

namespace ArgumentForm

def attachedToLetter : List Char → Option String
  | [] => none
  | '=' :: value => some (String.ofList value)
  | value => some (String.ofList value)

def attachedToName (cs : List Char) : Option String :=
  match cs.dropWhile (· ≠ '=') with
  | [] => none
  | _ :: value => some (String.ofList value)

def ofChars : List Char → ArgumentForm
  | '-' :: '-' :: cs => .named (String.ofList (cs.takeWhile (· ≠ '='))) (attachedToName cs)
  | '-' :: letter :: cs => .lettered letter (attachedToLetter cs)
  | _ => .word

def ofArgument (argument : String) : ArgumentForm := ofChars argument.toList

def option? (known : List KnownOption) : ArgumentForm → Option (KnownOption × Option String)
  | .word => none
  | .named name attached => (known.find? fun o => o.name = name).map (·, attached)
  | .lettered letter attached => (known.find? fun o => o.letter = some letter).map (·, attached)

end ArgumentForm

structure Arguments where
  options : List (String × String) := []
  words : List String := []
deriving DecidableEq, Repr

namespace Arguments

def withOption (arguments : Arguments) (o : KnownOption) (value : String) : Arguments :=
  { arguments with options := (o.name, value) :: arguments.options }

def withWord (arguments : Arguments) (word : String) : Arguments :=
  { arguments with words := word :: arguments.words }

/-- Tells the known options from the words; nothing if an option is unknown or its value is missing
or out of place.  In front of a subcommand the first word is the subcommand's name, and all that
follows belongs to it. -/
def scan (known : List KnownOption) (subcommand : Bool) : List String → Option Arguments
  | [] => some {}
  | argument :: rest =>
    if argument = "--" then
      if subcommand then none else some { words := rest }
    else match ArgumentForm.ofArgument argument with
    | .word =>
      if subcommand then some { words := argument :: rest }
      else (scan known subcommand rest).map (·.withWord argument)
    | form =>
      match form.option? known with
      | none => none
      | some (o, some value) =>
        if o.takes = .nothing then none
        else (scan known subcommand rest).map (·.withOption o value)
      | some (o, none) =>
        if o.takes = .nothing then (scan known subcommand rest).map (·.withOption o "")
        else match rest with
        | [] => none
        | value :: rest =>
          if o.takes = .anything ∨ ArgumentForm.ofArgument value = .word then
            (scan known subcommand rest).map (·.withOption o value)
          else none

/-- The arguments of a command, none of whose options is given twice. -/
def ofList? (known : List KnownOption) (subcommand : Bool) (arguments : List String) :
    Option Arguments :=
  (scan known subcommand arguments).filter fun a => (a.options.map Prod.fst).Nodup

def isGiven (arguments : Arguments) (name : String) : Bool :=
  (arguments.options.lookup name).isSome

def value? {α : Type} (arguments : Arguments) (name : String) (read : String → Option α) :
    Option (Option α) :=
  match arguments.options.lookup name with
  | none => some none
  | some value => (read value).map some

end Arguments

end DiceCup
