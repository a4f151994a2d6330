import FilterChain.Error
import FilterChain.Regex.Template

/-!
# Patterns with flags

The flag `g` asks for all occurrences instead of the first one, and `i`, `m` and `s` change
what matches.  The flag `u` changes nothing.

A replacement refers to groups by their positions: `$1` to `$99` are groups that the pattern
has, `$&` is the whole match and `$$` a dollar.  Of two digits both count if there is such a
group, or else the first.  Any other dollar stands for itself.
-/

namespace FilterChain

/-! ## Replacements -/

namespace Replacement

/-- The reference to a group as a template writes it. -/
def reference (index : Nat) : List Char :=
  '$' :: '{' :: (Nat.toDigits 10 index ++ ['}'])

def isGroup (groups index : Nat) : Bool := 1 ≤ index && index ≤ groups

/-- The template of a replacement for a pattern with so many groups.  Every dollar in it belongs
to `$$` or to a reference in braces. -/
def template (groups : Nat) : List Char → List Char
  | [] => []
  | '$' :: '$' :: text => '$' :: '$' :: template groups text
  | '$' :: '&' :: text => reference 0 ++ template groups text
  | '$' :: c :: text =>
    let one := Decimal.digitValue c
    match text with
    | d :: rest =>
      let two := 10 * one + Decimal.digitValue d
      if c.isDigit && d.isDigit && isGroup groups two then reference two ++ template groups rest
      else if c.isDigit && isGroup groups one then reference one ++ template groups (d :: rest)
      else '$' :: '$' :: template groups (c :: d :: rest)
    | [] =>
      if c.isDigit && isGroup groups one then reference one else '$' :: '$' :: template groups [c]
  | ['$'] => ['$', '$']
  | c :: text => c :: template groups text

end Replacement

/-! ## Patterns -/

section

variable [Regex.Engine]

structure Pattern where
  program : Regex.Engine.Program
  global : Bool

end

namespace Pattern

/-- What the flags of a pattern ask for. -/
structure Options where
  global : Bool
  flags : Regex.Flags
deriving DecidableEq

namespace Options

def standard : Options := ⟨false, .standard⟩

/-- Adds one flag, unless it is unknown. -/
def add? (options : Options) (flag : Char) : Option Options :=
  match flag with
  | 'g' => some { options with global := true }
  | 'i' => some { options with flags.ignoreCase := true }
  | 'm' => some { options with flags.multiLine := true }
  | 's' => some { options with flags.dotAll := true }
  | 'u' => some options
  | _ => none

/-- Reads flags; the first unknown one is the fault. -/
def read (options : Options) : List Char → Except NodeFault Options
  | [] => .ok options
  | flag :: flags =>
    match options.add? flag with
    | some options => options.read flags
    | none => .error (.unsupportedFlag flag)

end Options

variable [Regex.Engine]

/-- Compiles a pattern.  A fault of its flags comes before one of its own. -/
def compile (pattern flags : String) : Except NodeFault Pattern := do
  let options ← Options.standard.read flags.toList
  match Regex.Engine.compile pattern.toList options.flags with
  | .ok program => .ok ⟨program, options.global⟩
  | .error reason => .error (.invalidPattern pattern reason)

/-- The number of capture groups, as the compiled pattern has them: a group under `{0}`, which
drops out of it, does not count. -/
def groups (pattern : Pattern) : Nat := Regex.Engine.groups pattern.program

/-- The hits that the pattern asks for, and the text behind the last of them. -/
def hits (pattern : Pattern) (text : List Char) : List Regex.Hit × List Char :=
  if pattern.global then Regex.Engine.hits pattern.program text
  else
    match Regex.Engine.hit? pattern.program text with
    | some hit => ([hit], hit.rest)
    | none => ([], text)

def replace (pattern : Pattern) (text replacement : String) : String :=
  let template := Replacement.template pattern.groups replacement.toList
  let (hits, tail) := pattern.hits text.toList
  let names := Regex.Engine.names pattern.program
  String.ofList (Regex.weave (Regex.expandTemplate names template) hits tail)

end Pattern

end FilterChain
