import RemoteCall.Proofs.Service.Naming
import RemoteCall.Service.Registry

/-!
# The first claim of a name counts

A registry is the outcome of a history of attempts to register a service, of which some fail.  An
attempt claims the normal form of its service's name if it would do so in an empty registry: the
name is usable, and so is the name of one method at least.  For every name, the first attempt that
claims it is the one that counts, and inside its table the first usable method of a name.

* `lookup_select`: what `select` keeps of a table finds the first method of a name.
* `registers`: the four ways in which an attempt ends.  Whatever else is said about `register` is
  read off them.
* `lookup_history`: in the registry of a history a name finds what the first claim kept.
* `firstWins_of_history`: all of this in terms of `find`, and what every registry looks like that
  has a history.
-/

namespace RemoteCall.Registry

variable {μ : Type} {r : Registry μ} {name : String} {table : List (String × μ)}

/-! ## Histories -/

/-- The registry after an attempt to register a service under a name with a table. -/
def attempt (r : Registry μ) (service : String × List (String × μ)) : Registry μ :=
  match r.register service.1 service.2 with
  | .ok r' => r'
  | .error _ => r

/-- The registry after these attempts, made one after the other. -/
def history (attempts : List (String × List (String × μ))) : Registry μ :=
  attempts.foldl attempt empty

/-- Whether an entry of a method table offers a method of this name in normal form. -/
def offers (key : String) (entry : String × μ) : Bool :=
  Name.isValid entry.1 && Name.camelCase entry.1 = key

/-- Whether an attempt claims a name in normal form. -/
def claims (key : String) (service : String × List (String × μ)) : Bool :=
  Name.isValid service.1 && Name.camelCase service.1 = key &&
    service.2.any fun entry => Name.isValid entry.1

theorem history_concat (attempts : List (String × List (String × μ)))
    (service : String × List (String × μ)) :
    history (attempts ++ [service]) = (history attempts).attempt service := by
  rw [history, List.foldl_concat, history]

/-! ## What is kept of a table -/

theorem lookup_concat {α : Type} (l : List (String × α)) (key key' : String) (a : α) :
    (l ++ [(key, a)]).lookup key' = (l.lookup key').or (if key = key' then some a else none) := by
  rw [List.lookup_append]
  congr 1
  by_cases h : key = key'
  · simp [h]
  · have hne : (key' == key) = false := beq_false_of_ne (Ne.symm h)
    rw [List.lookup_cons, hne, if_neg h, List.lookup_nil]

theorem lookup_select (kept table : List (String × μ)) (key : String) :
    (select kept table).lookup key
      = (kept.lookup key).or ((table.find? (offers key)).map Prod.snd) := by
  -- along the table; what was kept of its beginning becomes more
  induction table generalizing kept with
  | nil => rw [select, List.find?_nil, Option.map_none, Option.or_none]
  | cons first table ih =>
    obtain ⟨name, method⟩ := first
    rw [select, fate, List.find?_cons]
    by_cases hvalid : Name.isValid name = true
    · rw [if_pos hvalid]
      by_cases htaken : (kept.lookup (Name.camelCase name)).isSome = true
      · -- a duplicate finds its place taken
        rw [if_pos htaken]
        show (select kept table).lookup key = _
        rw [ih]
        by_cases hkey : Name.camelCase name = key
        · obtain ⟨before, hbefore⟩ := Option.isSome_iff_exists.mp htaken
          rw [← hkey, hbefore, Option.some_or, Option.some_or]
        · simp [offers, hkey]
      · rw [if_neg htaken]
        show (select (kept ++ [(Name.camelCase name, method)]) table).lookup key = _
        rw [ih, lookup_concat, Option.or_assoc]
        by_cases hkey : Name.camelCase name = key
        · simp [offers, hvalid, hkey]
        · simp [offers, hkey]
    · rw [if_neg hvalid]
      show (select kept table).lookup key = _
      rw [ih]
      simp [offers, hvalid]

theorem mem_select {kept : List (String × μ)} {entry : String × μ}
    (h : entry ∈ select kept table) : entry ∈ kept ∨
      ∃ name, Name.isValid name = true ∧ (name, entry.2) ∈ table ∧
        entry.1 = Name.camelCase name := by
  induction table generalizing kept with
  | nil => exact Or.inl h
  | cons first table ih =>
    obtain ⟨name, method⟩ := first
    rw [select] at h
    have hlater : (∃ name', Name.isValid name' = true ∧ (name', entry.2) ∈ table ∧
        entry.1 = Name.camelCase name') → ∃ name', Name.isValid name' = true ∧
          (name', entry.2) ∈ (name, method) :: table ∧ entry.1 = Name.camelCase name' := by
      rintro ⟨name', hvalid, hmem, heq⟩
      exact ⟨name', hvalid, List.mem_cons_of_mem _ hmem, heq⟩
    split at h
    · next hfate =>
      rcases ih h with hkept | hnew
      · rcases List.mem_append.mp hkept with hkept | hown
        · exact Or.inl hkept
        · cases List.mem_singleton.mp hown
          refine Or.inr ⟨name, ?_, List.mem_cons_self, rfl⟩
          by_contra hvalid
          rw [fate, if_neg hvalid] at hfate
          cases hfate
      · exact Or.inr (hlater hnew)
    · exact (ih h).imp_right hlater

/-- Something is kept of a table exactly if one of its names is usable. -/
theorem select_ne_nil_iff :
    select [] table ≠ [] ↔ (table.any fun entry => Name.isValid entry.1) = true := by
  rw [List.any_eq_true]
  constructor
  · intro hne
    obtain ⟨entry, hentry⟩ := List.exists_mem_of_ne_nil _ hne
    rcases mem_select hentry with hnil | ⟨name, hvalid, hmem, _⟩
    · cases hnil
    · exact ⟨_, hmem, hvalid⟩
  · rintro ⟨entry, hmem, hvalid⟩ hnil
    -- the name of the entry finds something
    have hfound := lookup_select [] table (Name.camelCase entry.1)
    rw [hnil, List.lookup_nil, Option.none_or] at hfound
    have hnone := List.find?_eq_none.mp (Option.map_eq_none_iff.mp hfound.symm) entry hmem
    simp [offers, hvalid] at hnone

/-! ## How an attempt ends -/

/-- The ways in which registering a service ends. -/
inductive Registers (r : Registry μ) (name : String) (table : List (String × μ)) :
    Except RegistrationError (Registry μ) → Prop
  | invalid : Name.isValid name = false → Registers r name table (.error (.invalidName name))
  | taken (methods : List (String × μ)) : Name.isValid name = true →
      r.services.lookup (Name.camelCase name) = some methods →
      Registers r name table (.error (.alreadyDefined (Name.camelCase name)))
  | empty : Name.isValid name = true → r.services.lookup (Name.camelCase name) = none →
      select [] table = [] → Registers r name table (.error (.noMethods (Name.camelCase name)))
  | added : Name.isValid name = true → r.services.lookup (Name.camelCase name) = none →
      select [] table ≠ [] → Registers r name table
        (.ok ⟨r.services ++ [(Name.camelCase name, select [] table)]⟩)

theorem registers (r : Registry μ) (name : String) (table : List (String × μ)) :
    Registers r name table (r.register name table) := by
  unfold register
  by_cases hvalid : Name.isValid name = true
  · simp only [if_pos hvalid]
    cases hlookup : r.services.lookup (Name.camelCase name) with
    | some methods => exact .taken methods hvalid hlookup
    | none =>
      by_cases hnil : select [] table = []
      · simp only [hnil]
        exact .empty hvalid hlookup hnil
      · have hsome : (select [] table).isEmpty = false := by
          rw [List.isEmpty_eq_false_iff]
          exact hnil
        simp only [hsome]
        exact .added hvalid hlookup hnil
  · simp only [if_neg hvalid]
    exact .invalid (Bool.eq_false_iff.mpr hvalid)

/-- An attempt adds what it claims, unless the name is taken. -/
theorem lookup_attempt (r : Registry μ) (service : String × List (String × μ)) (key : String) :
    (r.attempt service).services.lookup key = (r.services.lookup key).or
      (if claims key service = true then some (select [] service.2) else none) := by
  obtain ⟨name, table⟩ := service
  have hunclaimed : (Name.isValid name = true → Name.camelCase name = key →
      select [] table ≠ [] → (r.services.lookup key).isSome = true) →
      r.services.lookup key = (r.services.lookup key).or
        (if claims key (name, table) = true then some (select [] table) else none) := by
    intro hno
    by_cases hclaims : claims key (name, table) = true
    · simp only [claims, Bool.and_eq_true, decide_eq_true_iff] at hclaims
      obtain ⟨methods, hmethods⟩ := Option.isSome_iff_exists.mp
        (hno hclaims.1.1 hclaims.1.2 (select_ne_nil_iff.mpr hclaims.2))
      rw [hmethods, Option.some_or]
    · rw [if_neg hclaims, Option.or_none]
  unfold attempt
  have hends := registers r name table
  generalize r.register name table = result at hends
  cases hends with
  | invalid hinvalid =>
    refine hunclaimed fun hvalid => ?_
    rw [hinvalid] at hvalid
    cases hvalid
  | taken methods _ hlookup =>
    refine hunclaimed fun _ hkey _ => ?_
    rw [← hkey, hlookup]
    rfl
  | empty _ _ hnil => exact hunclaimed fun _ _ hne => absurd hnil hne
  | added hvalid _ hne =>
    show (r.services ++ [_]).lookup key = _
    rw [lookup_concat]
    have hany := select_ne_nil_iff.mp hne
    simp only [claims, hvalid, hany, Bool.true_and, Bool.and_true, decide_eq_true_eq]

/-- **A name finds what its first claim kept.** -/
theorem lookup_history (attempts : List (String × List (String × μ))) (key : String) :
    (history attempts).services.lookup key
      = (attempts.find? (claims key)).map fun service => select [] service.2 := by
  induction attempts using List.reverseRecOn with
  | nil => rfl
  | append_singleton attempts service ih =>
    rw [history_concat, lookup_attempt, ih, List.find?_append, List.find?_singleton]
    cases attempts.find? (claims key) with
    | some first => rfl
    | none =>
      by_cases hclaims : claims key service = true
      · simp [hclaims]
      · simp [hclaims]

/-! ## What is stored -/

/-- A name as it is stored: usable, and in normal form. -/
def IsStored (name : String) : Prop :=
  Name.isValid name = true ∧ Name.camelCase name = name

theorem isStored_camelCase (h : Name.isValid name = true) : IsStored (Name.camelCase name) :=
  ⟨Name.isValid_camelCase_iff.mpr h, Name.camelCase_camelCase name⟩

/-- What every registry looks like that has a history: as in a dictionary, no name occurs twice. -/
structure IsSound (r : Registry μ) : Prop where
  distinct : (r.services.map Prod.fst).Nodup
  name : ∀ service ∈ r.services, IsStored service.1
  methods : ∀ service ∈ r.services, service.2 ≠ [] ∧ (service.2.map Prod.fst).Nodup ∧
    ∀ entry ∈ service.2, IsStored entry.1

theorem nodup_concat_of_lookup {α : Type} {l : List (String × α)} {key : String} {a : α}
    (h : (l.map Prod.fst).Nodup) (hkey : l.lookup key = none) :
    ((l ++ [(key, a)]).map Prod.fst).Nodup := by
  rw [List.map_append, List.map_singleton]
  refine List.nodup_append.mpr ⟨h, List.nodup_singleton _, ?_⟩
  intro name hname other hother
  obtain ⟨entry, hentry, rfl⟩ := List.mem_map.mp hname
  have hne := List.lookup_eq_none_iff.mp hkey entry hentry
  rw [List.mem_singleton.mp hother]
  exact (bne_iff_ne.mp hne).symm

theorem nodup_select {kept : List (String × μ)} (h : (kept.map Prod.fst).Nodup) :
    ((select kept table).map Prod.fst).Nodup := by
  induction table generalizing kept with
  | nil => exact h
  | cons first table ih =>
    obtain ⟨name, method⟩ := first
    rw [select]
    split
    · next hfate =>
      refine ih (nodup_concat_of_lookup h ?_)
      -- what is kept did not find its name taken
      unfold fate at hfate
      split at hfate
      · split at hfate
        · cases hfate
        · next htaken => exact Option.not_isSome_iff_eq_none.mp htaken
      · cases hfate
    · exact ih h

theorem isSound_empty : (empty : Registry μ).IsSound :=
  ⟨List.nodup_nil, fun _ h => absurd h List.not_mem_nil, fun _ h => absurd h List.not_mem_nil⟩

theorem IsSound.attempt (h : r.IsSound) (service : String × List (String × μ)) :
    (r.attempt service).IsSound := by
  obtain ⟨name, table⟩ := service
  unfold Registry.attempt
  have hends := registers r name table
  generalize r.register name table = result at hends
  cases hends with
  | invalid _ => exact h
  | taken _ _ _ => exact h
  | empty _ _ _ => exact h
  | added hvalid hlookup hne =>
    refine ⟨nodup_concat_of_lookup h.distinct hlookup, ?_, ?_⟩
    · intro service hservice
      rcases List.mem_append.mp hservice with hold | hnew
      · exact h.name service hold
      · rw [List.mem_singleton.mp hnew]
        exact isStored_camelCase hvalid
    · intro service hservice
      rcases List.mem_append.mp hservice with hold | hnew
      · exact h.methods service hold
      · rw [List.mem_singleton.mp hnew]
        refine ⟨hne, nodup_select List.nodup_nil, ?_⟩
        intro entry hentry
        rcases mem_select hentry with hnil | ⟨name', hvalid', _, heq⟩
        · cases hnil
        · rw [heq]
          exact isStored_camelCase hvalid'

theorem isSound_history (attempts : List (String × List (String × μ))) :
    (history attempts).IsSound := by
  induction attempts using List.reverseRecOn with
  | nil => exact isSound_empty
  | append_singleton attempts service ih =>
    rw [history_concat]
    exact ih.attempt service

/-! ## All histories -/

/-- A name that occurs in a list finds something there. -/
theorem mem_map_fst_iff {α : Type} {l : List (String × α)} :
    name ∈ l.map Prod.fst ↔ ∃ a, l.lookup name = some a := by
  rw [List.mem_map]
  constructor
  · rintro ⟨entry, hentry, rfl⟩
    by_contra hnone
    rw [← Option.isSome_iff_exists, Option.not_isSome_iff_eq_none] at hnone
    have hne := List.lookup_eq_none_iff.mp hnone entry hentry
    exact absurd rfl (bne_iff_ne.mp hne)
  · rintro ⟨a, hlookup⟩
    obtain ⟨before, behind, rfl, _⟩ := List.lookup_eq_some_iff.mp hlookup
    exact ⟨(name, a), List.mem_append_right _ List.mem_cons_self, rfl⟩

theorem mem_serviceNames :
    name ∈ r.serviceNames ↔ ∃ methods, r.services.lookup name = some methods := by
  rw [serviceNames, List.mem_mergeSort]
  exact mem_map_fst_iff

/-- What the registry of a history is to those who register services and look up methods. -/
structure FirstWins (attempts : List (String × List (String × μ))) (r : Registry μ) : Prop where
  /-- Two names find the first usable method of the one in the table of the first attempt that
  claims the other, and nothing if there is none. -/
  find : ∀ service method, r.find service method =
    (attempts.find? (claims (Name.camelCase service))).bind fun first =>
      (first.2.find? (offers (Name.camelCase method))).map Prod.snd
  /-- A service is registered if its name is usable and free and one of its methods is usable. -/
  accepts : ∀ name table, (∃ r', r.register name table = .ok r') ↔
    Name.isValid name = true ∧ Name.camelCase name ∉ r.serviceNames ∧
      ∃ entry ∈ table, Name.isValid entry.1 = true
  /-- If it is not, the failure tells the first of these reasons, and nothing has changed. -/
  refuses : ∀ name table cause, r.register name table = .error cause →
    history (attempts ++ [(name, table)]) = r ∧
      cause =
        if Name.isValid name = false then .invalidName name
        else if Name.camelCase name ∈ r.serviceNames then .alreadyDefined (Name.camelCase name)
        else .noMethods (Name.camelCase name)
  /-- Every service has a method, and all names are usable and in normal form. -/
  sound : r.IsSound

theorem find_history (attempts : List (String × List (String × μ))) (service method : String) :
    (history attempts).find service method =
      (attempts.find? (claims (Name.camelCase service))).bind fun first =>
        (first.2.find? (offers (Name.camelCase method))).map Prod.snd := by
  rw [Registry.find, lookup_history]
  cases attempts.find? (claims (Name.camelCase service)) with
  | none => rfl
  | some first =>
    show (select [] first.2).lookup (Name.camelCase method) = _
    rw [lookup_select, List.lookup_nil, Option.none_or]
    rfl

theorem register_eq_ok_iff : (∃ r', r.register name table = .ok r') ↔
    Name.isValid name = true ∧ Name.camelCase name ∉ r.serviceNames ∧
      ∃ entry ∈ table, Name.isValid entry.1 = true := by
  have hends := registers r name table
  have husable := @select_ne_nil_iff μ table
  rw [List.any_eq_true] at husable
  rw [mem_serviceNames]
  generalize r.register name table = result at hends
  cases hends with
  | invalid hinvalid => simp [hinvalid]
  | taken methods _ hlookup => simp [hlookup]
  | empty _ _ hnil =>
    have hnone : ¬ ∃ entry ∈ table, Name.isValid entry.1 = true := fun h => husable.mpr h hnil
    simp [hnone]
  | added hvalid hlookup hne =>
    have hsome := husable.mp hne
    simp [hvalid, hlookup, hsome]

theorem register_eq_error {cause : RegistrationError} (h : r.register name table = .error cause) :
    r.attempt (name, table) = r ∧
      cause =
        if Name.isValid name = false then .invalidName name
        else if Name.camelCase name ∈ r.serviceNames then .alreadyDefined (Name.camelCase name)
        else .noMethods (Name.camelCase name) := by
  have hends := registers r name table
  refine ⟨by rw [Registry.attempt, h], ?_⟩
  rw [h] at hends
  cases hends with
  | invalid hinvalid => rw [if_pos hinvalid]
  | taken methods hvalid hlookup =>
    rw [if_neg (by simp [hvalid]), if_pos (mem_serviceNames.mpr ⟨methods, hlookup⟩)]
  | empty hvalid hlookup _ =>
    rw [if_neg (by simp [hvalid]), if_neg (by simp [mem_serviceNames, hlookup])]

/-- **The first claim of a name counts**, whatever is attempted and in whatever order. -/
theorem firstWins_of_history (attempts : List (String × List (String × μ))) :
    FirstWins attempts (history attempts) where
  find := find_history attempts
  accepts _ _ := register_eq_ok_iff
  refuses name table cause h := by
    rw [history_concat]
    exact register_eq_error h
  sound := isSound_history attempts

/-- Three spellings of one name: the first has no usable method and claims nothing, the second
claims the name and keeps the first of its two methods, and the third is too late. -/
example : (history [("_a", [("b.c", 0)]), ("X_a", [("get_all", 1), ("GetAll", 2)]),
    ("XA", [("GetAll", 3)])]).find "x_a" "get_all" = some 1 := by
  decide +kernel

end RemoteCall.Registry
