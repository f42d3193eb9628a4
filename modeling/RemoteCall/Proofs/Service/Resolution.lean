import RemoteCall.Proofs.Service.FirstWins
import RemoteCall.Proofs.Service.Registered

/-!
# Names on the wire

A call names its target by two names with a dot between them, and the last dot of the text counts.
So there is something to be resolved only if the text has a dot, with something before the last one
and something behind it (`Targets`, `IllFormed`).

* `resolves_iff`: `Resolves` says how a look-up ends, by cases on the text and on the names that the
  registry lists, and this is how it ends.
* `isValid_of_find`: in a registry that has a history only usable names find anything.  They have no
  dots, so two names joined by a dot come apart at it again, and if they do not, then nothing is
  found either way.
* `resolvesNames_of_history`: both taken together, with the texts of the failures.
-/

namespace RemoteCall

namespace Name

/-! ## The last dot -/

/-- The text has a last dot, and this is what stands before and behind it. -/
structure IsSplit (text before behind : String) : Prop where
  eq : text = before ++ "." ++ behind
  last : '.' ∉ behind.toList

/-- The text names this service and this method. -/
structure Targets (text service method : String) : Prop extends IsSplit text service method where
  service_ne : service ≠ ""
  method_ne : method ≠ ""

/-- The text names no service or no method. -/
def IllFormed (text : String) : Prop :=
  '.' ∉ text.toList ∨
    ∃ before behind, IsSplit text before behind ∧ (before = "" ∨ behind = "")

theorem splitLastDot_eq_none_iff {cs : List Char} : splitLastDot cs = none ↔ '.' ∉ cs := by
  induction cs with
  | nil => exact iff_of_true rfl List.not_mem_nil
  | cons c rest ih =>
    rw [splitLastDot, List.mem_cons, not_or, ← ih]
    cases splitLastDot rest with
    | some parts => simp
    | none => simp [eq_comm]

theorem splitLastDot_append {behind : List Char} (h : '.' ∉ behind) (before : List Char) :
    splitLastDot (before ++ '.' :: behind) = some (before, behind) := by
  induction before with
  | nil => rw [List.nil_append, splitLastDot, splitLastDot_eq_none_iff.mpr h]; rfl
  | cons c before ih => rw [List.cons_append, splitLastDot, ih]

theorem eq_of_splitLastDot {cs before behind : List Char}
    (h : splitLastDot cs = some (before, behind)) :
    cs = before ++ '.' :: behind ∧ '.' ∉ behind := by
  -- from the front: a dot counts only if there is none in the rest
  induction cs generalizing before with
  | nil => cases h
  | cons c rest ih =>
    rw [splitLastDot] at h
    split at h
    · next before' behind' hrest =>
      cases h
      obtain ⟨rfl, hlast⟩ := ih hrest
      exact ⟨rfl, hlast⟩
    · next hrest =>
      split at h
      · next hdot =>
        cases h
        exact ⟨by rw [hdot, List.nil_append], splitLastDot_eq_none_iff.mp hrest⟩
      · cases h

variable {text before behind service method : String}

theorem IsSplit.toList (h : IsSplit text before behind) :
    text.toList = before.toList ++ '.' :: behind.toList := by
  rw [h.eq, String.toList_append, String.toList_append, List.append_assoc]
  rfl

theorem isSplit_iff : IsSplit text before behind ↔
    splitLastDot text.toList = some (before.toList, behind.toList) := by
  constructor
  · intro h
    rw [h.toList, splitLastDot_append h.last]
  · intro h
    obtain ⟨heq, hlast⟩ := eq_of_splitLastDot h
    refine ⟨?_, hlast⟩
    rw [← String.toList_inj, heq, String.toList_append, String.toList_append, List.append_assoc]
    rfl

theorem IsSplit.unique {before' behind' : String} (h : IsSplit text before behind)
    (h' : IsSplit text before' behind') : before = before' ∧ behind = behind' := by
  have hsame := (isSplit_iff.mp h).symm.trans (isSplit_iff.mp h')
  rw [Option.some_inj, Prod.mk.injEq, String.toList_inj, String.toList_inj] at hsame
  exact hsame

theorem illFormed_or_targets (text : String) :
    IllFormed text ∨ ∃ service method, Targets text service method := by
  cases hlast : splitLastDot text.toList with
  | none => exact Or.inl (Or.inl (splitLastDot_eq_none_iff.mp hlast))
  | some parts =>
    obtain ⟨before, behind⟩ := parts
    have hsplit : IsSplit text (String.ofList before) (String.ofList behind) := by
      rw [isSplit_iff, String.toList_ofList, String.toList_ofList, hlast]
    by_cases hempty : String.ofList before = "" ∨ String.ofList behind = ""
    · exact Or.inl (Or.inr ⟨_, _, hsplit, hempty⟩)
    · rw [not_or] at hempty
      exact Or.inr ⟨_, _, hsplit, hempty.1, hempty.2⟩

theorem split?_of_illFormed (h : IllFormed text) : split? text = none := by
  rcases h with hdot | ⟨before, behind, hsplit, hempty⟩
  · rw [split?, splitLastDot_eq_none_iff.mpr hdot]
  · rw [split?, isSplit_iff.mp hsplit]
    simp only [Bool.or_eq_true, List.isEmpty_iff, String.toList_eq_nil_iff, if_pos hempty]

theorem split?_of_targets (h : Targets text service method) :
    split? text = some (service, method) := by
  rw [split?, isSplit_iff.mp h.toIsSplit]
  simp [h.service_ne, h.method_ne]

/-! ## Usable names around a dot -/

theorem dot_notMem_of_isValid (h : isValid text = true) : '.' ∉ text.toList := by
  intro hdot
  exact ((isValid_iff.mp h).2 '.' hdot).1 rfl

theorem ne_empty_of_isValid (h : isValid text = true) : text ≠ "" := by
  rintro rfl
  exact (isValid_iff.mp h).1 rfl

/-- Two usable names come apart again where they were joined. -/
theorem targets_of_isValid (hservice : isValid service = true) (hmethod : isValid method = true) :
    Targets (service ++ "." ++ method) service method :=
  ⟨⟨rfl, dot_notMem_of_isValid hmethod⟩, ne_empty_of_isValid hservice, ne_empty_of_isValid hmethod⟩

theorem IsSplit.count (h : IsSplit text before behind) :
    text.toList.count '.' = before.toList.count '.' + 1 := by
  have hbehind : behind.toList.count '.' = 0 := List.count_eq_zero.mpr h.last
  rw [h.toList, List.count_append, List.count_cons_self, hbehind]

/-- Names that were joined where the text comes apart into usable names are these names. -/
theorem IsSplit.eq_of_isValid (h : IsSplit (service ++ "." ++ method) before behind)
    (hbefore : isValid before = true) : service = before ∧ method = behind := by
  -- there is one dot in all, so the last one is the one in between
  have hmethod : '.' ∉ method.toList := by
    have hcount := h.count
    have hnone := List.count_eq_zero.mpr (dot_notMem_of_isValid hbefore)
    rw [String.toList_append, String.toList_append, List.count_append, List.count_append,
      show List.count '.' ".".toList = 1 from rfl] at hcount
    rw [← List.count_eq_zero]
    omega
  exact IsSplit.unique ⟨rfl, hmethod⟩ h

/-- A text that comes apart into usable names has one dot and no white space. -/
theorem IsSplit.plain (h : IsSplit text before behind) (hbefore : isValid before = true)
    (hbehind : isValid behind = true) :
    text.toList.count '.' = 1 ∧ ∀ c ∈ text.toList, Text.isBlank c = false := by
  refine ⟨?_, ?_⟩
  · rw [h.count, List.count_eq_zero.mpr (dot_notMem_of_isValid hbefore)]
  · intro c hc
    rw [h.toList] at hc
    rcases List.mem_append.mp hc with hc | hc
    · exact ((isValid_iff.mp hbefore).2 c hc).2
    · rcases List.mem_cons.mp hc with rfl | hc
      · decide
      · exact ((isValid_iff.mp hbehind).2 c hc).2

end Name

/-! ## The texts of failures -/

namespace LookupError

/-- A place at which all three texts differ. -/
theorem getElem?_message (cause : LookupError) :
    cause.message.toList[16]? = some
      (match cause with
        | illFormed _ => 'h'
        | unknownService _ => 's'
        | unknownMethod _ => 'm') := by
  cases cause with
  | illFormed name =>
    show ("rpc: service/method request ill-formed: " ++ name).toList[16]? = some 'h'
    simp
  | unknownService name =>
    show ("rpc: can't find service " ++ name).toList[16]? = some 's'
    simp
  | unknownMethod name =>
    show ("rpc: can't find method " ++ name).toList[16]? = some 'm'
    simp

/-- Different failures have different texts. -/
theorem message_injective : Function.Injective message := by
  intro cause other h
  have hplace := congrArg (fun text => text.toList[16]?) h
  simp only [getElem?_message, Option.some_inj] at hplace
  cases cause with
  | illFormed name =>
    cases other with
    | illFormed other => exact congrArg illFormed ((String.append_right_inj _).mp h)
    | _ => simp at hplace
  | unknownService name =>
    cases other with
    | unknownService other => exact congrArg unknownService ((String.append_right_inj _).mp h)
    | _ => simp at hplace
  | unknownMethod name =>
    cases other with
    | unknownMethod other => exact congrArg unknownMethod ((String.append_right_inj _).mp h)
    | _ => simp at hplace

end LookupError

namespace Registry

variable {μ : Type} {r : Registry μ} {name service method : String} {found : μ}

/-! ## How a look-up ends -/

/-- The ways in which looking up a name ends. -/
inductive Resolves (r : Registry μ) (name : String) : Except LookupError μ → Prop
  | illFormed : Name.IllFormed name → Resolves r name (.error (.illFormed name))
  | unknownService {service method : String} : Name.Targets name service method →
      Name.camelCase service ∉ r.serviceNames → Resolves r name (.error (.unknownService name))
  | unknownMethod {service method : String} : Name.Targets name service method →
      Name.camelCase service ∈ r.serviceNames → Name.camelCase method ∉ r.methodNames service →
      Resolves r name (.error (.unknownMethod name))
  | found {service method : String} {found : μ} : Name.Targets name service method →
      r.find service method = some found → Resolves r name (.ok found)

theorem mem_methodNames : method ∈ r.methodNames service ↔
    ∃ methods found, r.services.lookup (Name.camelCase service) = some methods ∧
      methods.lookup method = some found := by
  rw [methodNames, List.mem_mergeSort]
  cases r.services.lookup (Name.camelCase service) with
  | none => simp
  | some methods => simpa using mem_map_fst_iff

theorem find_eq_some_iff : r.find service method = some found ↔
    ∃ methods, r.services.lookup (Name.camelCase service) = some methods ∧
      methods.lookup (Name.camelCase method) = some found := by
  rw [find]
  cases r.services.lookup (Name.camelCase service) with
  | none => simp
  | some methods => simp

theorem exists_resolves (r : Registry μ) (name : String) : ∃ result, Resolves r name result := by
  rcases Name.illFormed_or_targets name with hill | ⟨service, method, htargets⟩
  · exact ⟨_, .illFormed hill⟩
  · by_cases hservice : Name.camelCase service ∈ r.serviceNames
    · by_cases hmethod : Name.camelCase method ∈ r.methodNames service
      · obtain ⟨methods, found, hfound⟩ := mem_methodNames.mp hmethod
        exact ⟨_, .found htargets (find_eq_some_iff.mpr ⟨methods, hfound⟩)⟩
      · exact ⟨_, .unknownMethod htargets hservice hmethod⟩
    · exact ⟨_, .unknownService htargets hservice⟩

theorem Resolves.lookup_eq {result : Except LookupError μ} (h : Resolves r name result) :
    r.lookup name = result := by
  rw [lookup]
  cases h with
  | illFormed hill => rw [Name.split?_of_illFormed hill]
  | @unknownService service method htargets hservice =>
    rw [Name.split?_of_targets htargets]
    cases hmethods : r.services.lookup (Name.camelCase service) with
    | none => simp only [hmethods]
    | some methods => exact absurd (mem_serviceNames.mpr ⟨methods, hmethods⟩) hservice
  | @unknownMethod service method htargets hservice hmethod =>
    obtain ⟨methods, hmethods⟩ := mem_serviceNames.mp hservice
    rw [Name.split?_of_targets htargets]
    cases hfound : methods.lookup (Name.camelCase method) with
    | none => simp only [hmethods, hfound]
    | some found => exact absurd (mem_methodNames.mpr ⟨methods, found, hmethods, hfound⟩) hmethod
  | found htargets hfind =>
    obtain ⟨methods, hmethods, hfound⟩ := find_eq_some_iff.mp hfind
    rw [Name.split?_of_targets htargets]
    simp only [hmethods, hfound]

/-- **A look-up ends in one of these ways.** -/
theorem resolves_iff {result : Except LookupError μ} :
    r.lookup name = result ↔ Resolves r name result := by
  refine ⟨?_, Resolves.lookup_eq⟩
  rintro rfl
  obtain ⟨result, hresult⟩ := exists_resolves r name
  rw [hresult.lookup_eq]
  exact hresult

/-- Looking up a name fails with this text. -/
def FailsWith (r : Registry μ) (name text : String) : Prop :=
  ∃ cause, r.lookup name = .error cause ∧ cause.message = text

theorem failsWith_iff (cause : LookupError) :
    r.FailsWith name cause.message ↔ Resolves r name (.error cause) := by
  rw [← resolves_iff]
  constructor
  · rintro ⟨cause', hlookup, hmessage⟩
    rw [hlookup, LookupError.message_injective hmessage]
  · intro hlookup
    exact ⟨cause, hlookup, rfl⟩

/-! ## Registries with a history -/

/-- Only usable names find anything. -/
theorem isValid_of_find (hsound : r.IsSound) (h : r.find service method = some found) :
    Name.isValid service = true ∧ Name.isValid method = true := by
  obtain ⟨methods, hmethods, hfound⟩ := find_eq_some_iff.mp h
  have hentry := mem_of_lookup hmethods
  obtain ⟨_, _, hstored⟩ := hsound.methods _ hentry
  exact ⟨Name.isValid_camelCase_iff.mp (hsound.name _ hentry).1,
    Name.isValid_camelCase_iff.mp (hstored _ (mem_of_lookup hfound)).1⟩

/-- **Joined by a dot, two names find what they find apart.** -/
theorem lookup_join_eq_ok_iff (hsound : r.IsSound) :
    r.lookup (service ++ "." ++ method) = .ok found ↔ r.find service method = some found := by
  rw [resolves_iff]
  constructor
  · intro h
    cases h with
    | @found service' method' _ htargets hfind =>
      obtain ⟨rfl, rfl⟩ := htargets.toIsSplit.eq_of_isValid (isValid_of_find hsound hfind).1
      exact hfind
  · intro hfind
    obtain ⟨hservice, hmethod⟩ := isValid_of_find hsound hfind
    exact .found (Name.targets_of_isValid hservice hmethod) hfind

/-- What is listed is found, since the names in the list are in normal form already. -/
theorem exists_find_of_mem (hsound : r.IsSound) (hmethod : method ∈ r.methodNames service) :
    ∃ found, r.find service method = some found := by
  obtain ⟨methods, found, hmethods, hfound⟩ := mem_methodNames.mp hmethod
  obtain ⟨_, _, hstored⟩ := hsound.methods _ (mem_of_lookup hmethods)
  refine ⟨found, find_eq_some_iff.mpr ⟨methods, hmethods, ?_⟩⟩
  rw [(hstored _ (mem_of_lookup hfound)).2, hfound]

/-- How the names in calls are resolved. -/
structure ResolvesNames (r : Registry μ) : Prop where
  /-- Joined by a dot, two names find what they find apart. -/
  joined : ∀ service method found,
    r.lookup (service ++ "." ++ method) = .ok found ↔ r.find service method = some found
  /-- A name that finds something has one dot and no white space. -/
  plain : ∀ name found, r.lookup name = .ok found →
    name.toList.count '.' = 1 ∧ ∀ c ∈ name.toList, Text.isBlank c = false
  illFormed : ∀ name, r.FailsWith name ("rpc: service/method request ill-formed: " ++ name) ↔
    Name.IllFormed name
  unknownService : ∀ name, r.FailsWith name ("rpc: can't find service " ++ name) ↔
    ∃ service method, Name.Targets name service method ∧
      Name.camelCase service ∉ r.serviceNames
  unknownMethod : ∀ name, r.FailsWith name ("rpc: can't find method " ++ name) ↔
    ∃ service method, Name.Targets name service method ∧
      Name.camelCase service ∈ r.serviceNames ∧ Name.camelCase method ∉ r.methodNames service
  /-- There are no other texts. -/
  only : ∀ name text, r.FailsWith name text →
    text = "rpc: service/method request ill-formed: " ++ name ∨
      text = "rpc: can't find service " ++ name ∨ text = "rpc: can't find method " ++ name
  /-- What the registry lists is found under the names joined by a dot. -/
  listed : ∀ service ∈ r.serviceNames, ∀ method ∈ r.methodNames service,
    ∃ found, r.lookup (service ++ "." ++ method) = .ok found

/-- **Names in calls are resolved as names apart are**, and the text of a failure tells which of
three things is wrong. -/
theorem resolvesNames_of_history (attempts : List (String × List (String × μ))) :
    ResolvesNames (history attempts) := by
  have hsound := isSound_history attempts
  refine ⟨?_, ?_, ?_, ?_, ?_, ?_, ?_⟩
  · intro service method found
    exact lookup_join_eq_ok_iff hsound
  · intro name found hlookup
    cases resolves_iff.mp hlookup with
    | found htargets hfind =>
      obtain ⟨hservice, hmethod⟩ := isValid_of_find hsound hfind
      exact htargets.toIsSplit.plain hservice hmethod
  · intro name
    refine (failsWith_iff (.illFormed name)).trans ⟨?_, .illFormed⟩
    intro h
    cases h with
    | illFormed hill => exact hill
  · intro name
    refine (failsWith_iff (.unknownService name)).trans ⟨?_, ?_⟩
    · intro h
      cases h with
      | unknownService htargets hservice => exact ⟨_, _, htargets, hservice⟩
    · rintro ⟨service, method, htargets, hservice⟩
      exact .unknownService htargets hservice
  · intro name
    refine (failsWith_iff (.unknownMethod name)).trans ⟨?_, ?_⟩
    · intro h
      cases h with
      | unknownMethod htargets hservice hmethod => exact ⟨_, _, htargets, hservice, hmethod⟩
    · rintro ⟨service, method, htargets, hservice, hmethod⟩
      exact .unknownMethod htargets hservice hmethod
  · rintro name text ⟨cause, hlookup, rfl⟩
    cases resolves_iff.mp hlookup with
    | illFormed _ => exact Or.inl rfl
    | unknownService _ _ => exact Or.inr (Or.inl rfl)
    | unknownMethod _ _ _ => exact Or.inr (Or.inr rfl)
  · intro service _ method hmethod
    obtain ⟨found, hfind⟩ := exists_find_of_mem hsound hmethod
    exact ⟨found, (lookup_join_eq_ok_iff hsound).mpr hfind⟩

/-- The last dot counts, also where an earlier one would lead to a service. -/
example : (history [("a", [("b.c", 0), ("c", 1)])]).lookup "a.b.c"
    = .error (.unknownService "a.b.c") := by
  decide +kernel

end Registry

end RemoteCall
