import FilterChain.Function.Builtin

/-!
# Registries

A registry holds functions by name.  Functions can be added, under names that are not empty
and not taken, and never removed.  A refusal leaves a registry as it is.
-/

namespace FilterChain

abbrev Registry := Dictionary Function

namespace Registry

def register (registry : Registry) (name : String) (function : Function) :
    Except RegistryFault Registry :=
  if name.isEmpty then .error .emptyName
  else if registry.contains name then .error (.duplicateName name)
  else .ok (registry.insert name function)

/-- A function is added under a name that is neither empty nor taken, and under no other. -/
theorem register_cases (registry : Registry) (name : String) (function : Function) :
    (name ≠ "" ∧ registry.find? name = none ∧
        registry.register name function = .ok (registry.insert name function)) ∨
      ((name = "" ∨ (registry.find? name).isSome) ∧
        ∃ fault, registry.register name function = .error fault) := by
  by_cases hname : name = ""
  · exact Or.inr ⟨Or.inl hname, .emptyName, by simp [register, hname]⟩
  · cases hfind : registry.find? name with
    | none => exact Or.inl ⟨hname, rfl, by simp [register, Dictionary.contains, hname, hfind]⟩
    | some taken =>
      exact Or.inr ⟨Or.inr rfl, .duplicateName name,
        by simp [register, Dictionary.contains, hname, hfind]⟩

/-- Adds a function if the registry takes it: the answer, and the registry behind it. -/
def offer (registry : Registry) (name : String) (function : Function) :
    Except FilterError Unit × Registry :=
  match registry.register name function with
  | .ok extended => (.ok (), extended)
  | .error fault => (.error (.generic fault), registry)

/-- The registry behind offers in a row, whatever the answers to them. -/
def offerAll (registry : Registry) (offers : Entries Function) : Registry :=
  offers.foldl (fun registry entry => (registry.offer entry.1 entry.2).2) registry

/-- The functions that every expression may use.  Those on the request have one-letter
names too. -/
def builtins : Entries Function :=
  [("get", .ofValues Function.get),
    ("split", .ofValues Function.split),
    ("join", .ofValues Function.join),
    ("query", .ofContext Function.query),
    ("q", .ofContext Function.query),
    ("headers", .ofContext Function.headers),
    ("h", .ofContext Function.headers),
    ("path", .ofContext Function.path),
    ("p", .ofContext Function.path),
    ("url", .ofContext Function.url),
    ("u", .ofContext Function.url),
    ("request", .ofContext Function.request),
    ("r", .ofContext Function.request)]

def standard : Registry := Dictionary.ofEntries builtins

end Registry

end FilterChain
