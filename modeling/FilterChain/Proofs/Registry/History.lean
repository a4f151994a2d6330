import FilterChain.Registry
import Mathlib.Tactic

/-!
# Histories of registries

A registry only ever grows.  Behind any offers in a row it gives a name the function that it
gave it before them, or else the first one that was offered under this name; the empty name is
never given any.  The answer to an offer therefore depends on the names that were taken before it
and on nothing else, and the names of a registry are these names, once each and in increasing
order.
-/

namespace FilterChain.Registry

variable {registry : Registry} {name : String}

/-! ## One offer -/

/-- All that an offer can do. -/
theorem offer_cases (registry : Registry) (name : String) (function : Function) :
    (name ≠ "" ∧ registry.find? name = none ∧
        registry.offer name function = (.ok (), registry.insert name function)) ∨
      ((name = "" ∨ (registry.find? name).isSome) ∧
        ∃ fault, registry.offer name function = (.error (.generic fault), registry)) := by
  obtain ⟨hname, hfree, hregister⟩ | ⟨htaken, fault, hregister⟩ :=
    register_cases registry name function
  · exact Or.inl ⟨hname, hfree, by rw [offer, hregister]⟩
  · exact Or.inr ⟨htaken, fault, by rw [offer, hregister]⟩

theorem offer_eq_ok_iff {function : Function} :
    (registry.offer name function).1 = .ok () ↔ name ≠ "" ∧ registry.find? name = none := by
  obtain ⟨hname, hfree, hoffer⟩ | ⟨htaken, fault, hoffer⟩ := offer_cases registry name function
  · rw [hoffer]
    exact ⟨fun _ => ⟨hname, hfree⟩, fun _ => rfl⟩
  · rw [hoffer]
    constructor
    · intro hok
      cases hok
    · rintro ⟨hname, hfree⟩
      have hsome : (registry.find? name).isSome := htaken.resolve_left hname
      rw [hfree] at hsome
      cases hsome

theorem find?_offer_of_ok {function : Function} (hok : (registry.offer name function).1 = .ok ())
    (key : String) :
    (registry.offer name function).2.find? key =
      if key = name then some function else registry.find? key := by
  obtain ⟨-, -, hoffer⟩ | ⟨-, fault, hoffer⟩ := offer_cases registry name function
  · rw [hoffer, Dictionary.find?_insert]
  · rw [hoffer] at hok
    cases hok

/-- A refusal is an error about the registry, and changes nothing. -/
theorem offer_refused {function : Function} (hne : (registry.offer name function).1 ≠ .ok ()) :
    (∃ fault, (registry.offer name function).1 = .error (.generic fault)) ∧
      (registry.offer name function).2 = registry := by
  obtain ⟨-, -, hoffer⟩ | ⟨-, fault, hoffer⟩ := offer_cases registry name function
  · exact absurd (congrArg Prod.fst hoffer) hne
  · exact ⟨⟨fault, congrArg Prod.fst hoffer⟩, congrArg Prod.snd hoffer⟩

/-- What a name finds behind an offer: what it found before, or else what was offered under it. -/
theorem find?_offer (registry : Registry) (name : String) (function : Function) (key : String) :
    (registry.offer name function).2.find? key =
      (registry.find? key).or (if key ≠ "" ∧ key = name then some function else none) := by
  obtain ⟨hname, hfree, hoffer⟩ | ⟨htaken, fault, hoffer⟩ := offer_cases registry name function
  · rw [hoffer, Dictionary.find?_insert]
    by_cases hkey : key = name
    · rw [if_pos hkey, if_pos ⟨hkey ▸ hname, hkey⟩, hkey, hfree, Option.none_or]
    · rw [if_neg hkey, if_neg (fun h => hkey h.2), Option.or_none]
  · rw [hoffer]
    by_cases hkey : key ≠ "" ∧ key = name
    · obtain ⟨hne, rfl⟩ := hkey
      have hsome : (registry.find? key).isSome := htaken.resolve_left hne
      rw [Option.or_of_isSome hsome]
    · rw [if_neg hkey, Option.or_none]

/-! ## Offers in a row -/

theorem offerAll_cons (registry : Registry) (entry : String × Function)
    (offers : Entries Function) :
    registry.offerAll (entry :: offers) =
      offerAll (registry.offer entry.1 entry.2).2 offers := rfl

/-- What a name finds behind some offers: what it found before them, or else the first function
that was offered under it. -/
theorem find?_offerAll (registry : Registry) (offers : Entries Function) (key : String) :
    (registry.offerAll offers).find? key =
      (registry.find? key).or (if key = "" then none else Entries.find? offers key) := by
  induction offers generalizing registry with
  | nil => simp [offerAll]
  | cons entry offers ih =>
      have hfirst : (if key ≠ "" ∧ key = entry.1 then some entry.2 else none).or
            (if key = "" then none else Entries.find? offers key) =
          if key = "" then none else Entries.find? (entry :: offers) key := by
        rw [Entries.find?_cons]
        by_cases hempty : key = ""
        · simp [hempty]
        · by_cases hkey : key = entry.1
          · simp [← hkey, hempty]
          · simp [hempty, hkey]
      rw [offerAll_cons, ih, find?_offer, Option.or_assoc, hfirst]

/-- A name that is taken keeps its function. -/
theorem find?_offerAll_of_taken {taken : Function} (hfind : registry.find? name = some taken)
    (offers : Entries Function) : (registry.offerAll offers).find? name = some taken := by
  rw [find?_offerAll, hfind, Option.some_or]

/-! ## Where histories start -/

/-- A registry without functions, or with the built-in ones only. -/
inductive Initial : Registry → Prop
  | empty : Initial Dictionary.empty
  | standard : Initial standard

theorem Initial.find?_empty {start : Registry} (hstart : start.Initial) :
    start.find? "" = none := by
  cases hstart with
  | empty => rfl
  | standard => rfl

theorem find?_standard_of_mem : ∀ entry ∈ builtins, standard.find? entry.1 = some entry.2 := by
  simp only [builtins, List.forall_mem_cons]
  exact ⟨rfl, rfl, rfl, rfl, rfl, rfl, rfl, rfl, rfl, rfl, rfl, rfl, rfl, by simp⟩

/-- Behind every history a registry takes a function exactly if its name is not empty and free,
and says so; a refusal is an error about the registry and changes nothing.  What was taken stays,
and the names are those under which something was taken. -/
theorem offer_behind_history {start : Registry} (hstart : start.Initial)
    (offers : Entries Function) :
    let registry := start.offerAll offers
    (∀ name function,
      let answer := (registry.offer name function).1
      let behind := (registry.offer name function).2
      (answer = .ok () ↔ name ≠ "" ∧ registry.find? name = none) ∧
      (answer = .ok () →
        ∀ key, behind.find? key = if key = name then some function else registry.find? key) ∧
      (answer ≠ .ok () → (∃ fault, answer = .error (.generic fault)) ∧ behind = registry)) ∧
    (∀ name function, registry.find? name = some function →
      ∀ more, (registry.offerAll more).find? name = some function) ∧
    (start = standard → ∀ entry ∈ builtins, registry.find? entry.1 = some entry.2) ∧
    (∀ name, registry.find? name =
      (start.find? name).or (if name = "" then none else Entries.find? offers name)) ∧
    registry.keys.Pairwise (· < ·) ∧ "" ∉ registry.keys ∧
    (∀ name, (name ∈ registry.keys ↔ ∃ function, registry.find? name = some function) ∧
      (name ∈ registry.keys ↔ registry.contains name)) ∧
    registry.size = registry.keys.length ∧ (registry.isEmpty ↔ registry.keys = []) := by
  intro registry
  have hempty : registry.find? "" = none := by
    rw [find?_offerAll, hstart.find?_empty, Option.none_or, if_pos rfl]
  refine ⟨fun name function => ⟨offer_eq_ok_iff, find?_offer_of_ok, offer_refused⟩,
    fun name function hfind => find?_offerAll_of_taken hfind, ?_, find?_offerAll start offers,
    registry.pairwise_keys, ?_, ?_, registry.length_keys.symm, Dictionary.isEmpty_iff⟩
  · rintro rfl entry hentry
    exact find?_offerAll_of_taken (find?_standard_of_mem entry hentry) offers
  · rw [Dictionary.mem_keys, hempty]
    exact Bool.false_ne_true
  · intro name
    exact ⟨Dictionary.mem_keys.trans Option.isSome_iff_exists, Dictionary.mem_keys⟩

/-- A name is offered twice, a built-in one and the empty one are offered as well. -/
theorem offer_behind_history_of_refusals :
    let answer (text : String) : Function := .ofValues fun _ _ => .ok (.string text)
    let offers : Entries Function :=
      [("shout", answer "first"), ("get", answer "other"), ("", answer "none"),
        ("shout", answer "second")]
    let registry := standard.offerAll offers
    Initial standard ∧
      registry.find? "shout" = some (answer "first") ∧
      registry.find? "get" = some (.ofValues Function.get) ∧
      (registry.offer "shout" (answer "third")).1 ≠ .ok () ∧
      (registry.offer "shout" (answer "third")).2 = registry ∧
      (registry.offer "whisper" (answer "third")).1 = .ok () ∧
      "" ∉ registry.keys ∧ registry.size = registry.keys.length := by
  intro answer offers registry
  obtain ⟨hoffer, -, hbuiltin, hfind, -, hempty, -, hsize, -⟩ :=
    offer_behind_history Initial.standard offers
  have hshout : registry.find? "shout" = some (answer "first") := (hfind "shout").trans rfl
  have hwhisper : registry.find? "whisper" = none := (hfind "whisper").trans rfl
  have hget : registry.find? "get" = some (.ofValues Function.get) :=
    hbuiltin rfl ("get", .ofValues Function.get) List.mem_cons_self
  obtain ⟨htaken, -, hrefused⟩ := hoffer "shout" (answer "third")
  obtain ⟨hfree, -, -⟩ := hoffer "whisper" (answer "third")
  have hne : (registry.offer "shout" (answer "third")).1 ≠ .ok () := by
    intro hok
    cases hshout.symm.trans (htaken.mp hok).2
  exact ⟨Initial.standard, hshout, hget, hne, (hrefused hne).2, hfree.mpr ⟨by decide, hwhisper⟩,
    hempty, hsize⟩

end FilterChain.Registry
