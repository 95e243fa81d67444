import GdbMcp.SchemaKeywords
import GdbMcp.SchemaNormalize

/-! The required paths of a merged schema, and the note of those that only some of the alternatives require. -/

namespace GdbMcp

variable {left right fields variant : Fields} {variants : List Fields} {name path s : String} {value : Json}

/-- The names that a schema requires. -/
def requiredNames (schema : Fields) : List String := textItems (schema.lookup "required")

/-- The required paths of a schema, at its own level and one level below. -/
abbrev paths (schema : Fields) : List String := requiredPaths 2 "" schema

/-- What is required is declared, as a schema with fields, and required names contain no dots. The keys of the objects are
distinct, as those of a Python dict are. -/
structure Mergeable (variant : Fields) : Prop where
  distinct : Dict.Distinct (declared variant)
  required : ∀ name ∈ requiredNames variant, '.' ∉ name.toList ∧ ∃ fields,
    (declared variant).lookup name = some (.obj fields) ∧ Dict.Distinct fields ∧
      ∀ s ∈ requiredNames fields, '.' ∉ s.toList

/-! ### Paths -/

theorem mem_textItems : s ∈ textItems (some value) ↔ ∃ items, value = .arr items ∧ .str s ∈ items := by
  cases value with
  | arr items =>
      simp only [textItems, Option.bind_some, Json.asList, Option.getD_some, List.mem_filterMap, Json.arr.injEq,
        exists_eq_left']
      constructor
      · rintro ⟨item, hitem, htext⟩
        cases item with
        | str t => exact Option.some.inj htext ▸ hitem
        | _ => cases htext
      · exact fun hmem => ⟨_, hmem, rfl⟩
  | _ => simp [textItems, Json.asList]

/-- The path of a nested name. -/
def below (name s : String) : String := name ++ "." ++ s

theorem mem_paths : path ∈ paths variant ↔ path ∈ requiredNames variant ∨
    ∃ name ∈ requiredNames variant, ∃ fields, (declared variant).lookup name = some (.obj fields) ∧
      ∃ s ∈ requiredNames fields, path = below name s := by
  have hnested : ∀ (start : String) (nested : Fields), path ∈ requiredPaths 1 start nested ↔
      ∃ s ∈ requiredNames nested, path = start ++ s := by
    intro start nested
    rw [requiredPaths, List.mem_flatMap]
    refine exists_congr fun s => and_congr_right fun _ => ?_
    split <;> simp [requiredPaths]
  rw [paths, requiredPaths, List.mem_flatMap]
  constructor
  · rintro ⟨name, hname, hpath⟩
    rw [String.empty_append] at hpath
    rcases List.mem_cons.mp hpath with rfl | hpath
    · exact .inl hname
    · split at hpath
      · rename_i fields hlookup
        obtain ⟨s, hs, rfl⟩ := (hnested _ _).mp hpath
        exact .inr ⟨name, hname, fields, hlookup, s, hs, rfl⟩
      · cases hpath
  · rintro (hname | ⟨name, hname, fields, hlookup, s, hs, rfl⟩)
    · exact ⟨path, hname, by rw [String.empty_append]; exact List.mem_cons_self⟩
    · refine ⟨name, hname, List.mem_cons_of_mem _ ?_⟩
      rw [hlookup]
      dsimp only
      exact (hnested _ _).mpr ⟨s, hs, by rw [String.empty_append]; rfl⟩

theorem toList_below (name s : String) : (below name s).toList = name.toList ++ '.' :: s.toList := by
  simp [below, String.toList_append]

theorem dot_mem_below (name s : String) : '.' ∈ (below name s).toList := by
  rw [toList_below]
  simp

/-- Behind a name without dots, the path says which name it is. -/
theorem below_inj {name' s' : String} (hname : '.' ∉ name.toList) (hname' : '.' ∉ name'.toList)
    (h : below name s = below name' s') : name = name' ∧ s = s' := by
  have hfront : ∀ {xs ys : List Char}, '.' ∉ xs → (xs ++ '.' :: ys).takeWhile (· != '.') = xs := by
    intro xs ys hxs
    rw [List.takeWhile_append_of_pos fun c hc => bne_iff_ne.mpr (ne_of_mem_of_not_mem hc hxs)]
    simp
  have hlist := congrArg String.toList h
  rw [toList_below, toList_below] at hlist
  have heq : name.toList = name'.toList := by rw [← hfront hname, hlist, hfront hname']
  rw [heq] at hlist
  exact ⟨String.toList_injective heq, String.toList_injective (List.cons.inj (List.append_cancel_left hlist)).2⟩

/-! ### Merged requirements -/

/-- No text but the same one is equal to a text. -/
theorem str_iff_of_pyEq {x y : Json} (h : x.pyEq y = true) : x = .str s ↔ y = .str s := by
  constructor
  · rintro rfl
    have hscalar := (Json.eqv_scalar rfl).mp h
    cases y <;> simp_all [Json.scalar]
  · rintro rfl
    cases x with
    | arr items =>
        obtain ⟨_, heq, -⟩ := Json.eqv_arr.mp h
        cases heq
    | obj fields =>
        obtain ⟨_, heq, -⟩ := Json.eqv_obj.mp h
        cases heq
    | _ =>
        have hscalar := (Json.eqv_scalar rfl).mp h
        simp_all [Json.scalar]

/-- Equal documents require the same names. -/
theorem requiredNames_congr (h : (Json.obj left).pyEq (.obj right) = true) :
    s ∈ requiredNames left ↔ s ∈ requiredNames right := by
  obtain ⟨ys, heq, hlookup, hkeys⟩ := Json.eqv_obj.mp h
  obtain rfl := Json.obj.inj heq
  unfold requiredNames
  cases hleft : left.lookup "required" with
  | none =>
      have hright : right.lookup "required" = none := by
        refine Dict.lookup_eq_none.mpr fun hmem => ?_
        obtain ⟨v, hv⟩ := Dict.exists_lookup hmem
        exact Dict.lookup_eq_none.mp hleft (hkeys _ (Dict.mem_of_lookup hv))
      rw [hright]
  | some x =>
      obtain ⟨y, hright, hxy⟩ := hlookup _ (Dict.mem_of_lookup hleft)
      have hmem : ∀ {items items' : List Json}, List.Forall₂ (fun x y => x.eqv true y = true) items items' →
          (.str s ∈ items ↔ .str s ∈ items') := by
        intro items items' hitems
        induction hitems with
        | nil => rfl
        | cons hxy _ ih => rw [List.mem_cons, List.mem_cons, ih, eq_comm, str_iff_of_pyEq hxy, eq_comm]
      rw [hright, mem_textItems, mem_textItems]
      constructor
      · rintro ⟨items, rfl, hs⟩
        obtain ⟨items', rfl, hitems⟩ := Json.eqv_arr.mp hxy
        exact ⟨items', rfl, (hmem hitems).mp hs⟩
      · rintro ⟨items', rfl, hs⟩
        cases x with
        | arr items =>
            obtain ⟨_, heq, hitems⟩ := Json.eqv_arr.mp hxy
            obtain rfl := Json.arr.inj heq
            exact ⟨items, rfl, (hmem hitems).mpr hs⟩
        | obj fields =>
            obtain ⟨_, heq, -⟩ := Json.eqv_obj.mp hxy
            cases heq
        | _ => exact nomatch (Json.eqv_scalar rfl).mp hxy

/-- The merged property requires what both alternatives require. -/
theorem requiredNames_mergeRequired :
    s ∈ requiredNames (mergeRequired left right) ↔ s ∈ requiredNames left ∧ s ∈ requiredNames right := by
  have hnames : ∀ schema : Fields, s ∈ requiredNames schema ↔
      .str s ∈ ((schema.lookup "required").bind Json.asList).getD [] := by
    intro schema
    unfold requiredNames
    cases schema.lookup "required" with
    | none => simp [textItems]
    | some value =>
        rw [mem_textItems]
        cases value <;> simp [Json.asList]
  rw [hnames left, hnames right]
  unfold mergeRequired
  split
  · rename_i hleft hright
    rw [hnames left, hleft, hright]
    simp
  · rename_i leftNames rightNames _
    dsimp only
    have hcommon : ∀ {ls rs : List Json}, .str s ∈ ls.filter (fun name => rs.any name.pyEq) ↔ .str s ∈ ls ∧ .str s ∈ rs := by
      intro ls rs
      rw [List.mem_filter, List.any_eq_true]
      refine and_congr_right fun _ => ⟨?_, fun h => ⟨_, h, (Json.eqv_scalar rfl).mpr rfl⟩⟩
      rintro ⟨y, hy, heq⟩
      exact (str_iff_of_pyEq heq).mp rfl ▸ hy
    rw [← hcommon]
    split
    · rename_i hempty
      rw [List.isEmpty_iff.mp hempty, requiredNames]
      simp [textItems]
    · rw [requiredNames, Dict.lookup_set, if_pos (by decide), mem_textItems]
      simp

variable (left) in
theorem exists_mergePropertySchemas (hright : Dict.Distinct right) :
    ∃ fields, mergePropertySchemas (.obj left) (.obj right) = .obj fields ∧
      ∀ s, s ∈ requiredNames fields ↔ s ∈ requiredNames left ∧ s ∈ requiredNames right := by
  unfold mergePropertySchemas
  by_cases heq : (Json.obj left).pyEq (.obj right) = true
  · rw [if_pos heq]
    exact ⟨left, rfl, fun s => (and_iff_left_of_imp (requiredNames_congr heq).mp).symm⟩
  · rw [if_neg heq]
    refine ⟨_, rfl, fun s => ?_⟩
    rw [← requiredNames_mergeRequired, requiredNames, lookup_mergeFields hright, requiredNames]
    cases right.lookup "required" with
    | none => rfl
    | some value => rfl

/-! ### Merged variants -/

/-- The properties of the merged schema. -/
def mergedProperties (variants : List Fields) : Fields :=
  variants.foldl (fun properties variant => mergeProperties properties (declared variant)) []

/-- The names that all variants require, in the order of their first appearance. -/
def commonNames (variants : List Fields) : List String :=
  (variants.map requiredNames).flatten.eraseDups.filter fun name => (variants.map requiredNames).all (·.elem name)

/-- The merged schema, before it is closed to further properties. -/
def mergedFields (variants : List Fields) : Fields :=
  let merged : Fields := if (mergedProperties variants).isEmpty then [("type", .str "object")]
    else Dict.set [("type", .str "object")] "properties" (.obj (mergedProperties variants))
  if (commonNames variants).isEmpty then merged
  else Dict.set merged "required" (.arr ((commonNames variants).map .str))

theorem lookup_mergeObjectVariants (variants : List Fields) :
    (mergeObjectVariants variants).lookup "required" =
        (if (commonNames variants).isEmpty then none else some (.arr ((commonNames variants).map .str))) ∧
      (mergeObjectVariants variants).lookup "properties" =
        if (mergedProperties variants).isEmpty then none else some (.obj (mergedProperties variants)) := by
  have hset : ∀ {c : Prop} [Decidable c] {d : Fields} {key key' : String} {value : Json},
      (if c then d else Dict.set d key value).lookup key' =
        if key' = key ∧ ¬c then some value else d.lookup key' := by
    intro c _ d key key' value
    by_cases hc : c <;> by_cases hkey : key' = key <;> simp [hc, hkey]
  have hset' : ∀ {c : Prop} [Decidable c] {d : Fields} {key key' : String} {value : Json}, key' ≠ key →
      (if c then Dict.set d key value else d).lookup key' = d.lookup key' := by
    intro c _ d key key' value hkey
    split <;> simp [hkey]
  have hmerged : ∃ (c : Prop) (_ : Decidable c), mergeObjectVariants variants =
      if c then Dict.set (mergedFields variants) "additionalProperties" (.bool false) else mergedFields variants :=
    ⟨_, _, rfl⟩
  obtain ⟨c, _, hmerged⟩ := hmerged
  constructor
  · rw [hmerged, hset' (by decide), mergedFields, hset, hset]
    by_cases hempty : (commonNames variants).isEmpty = true
    · rw [if_neg (by simp [hempty]), if_neg (by simp), if_pos hempty]
      rfl
    · rw [if_pos ⟨rfl, hempty⟩, if_neg hempty]
  · rw [hmerged, hset' (by decide), mergedFields, hset, if_neg (by simp), hset]
    by_cases hempty : (mergedProperties variants).isEmpty = true
    · rw [if_neg (by simp [hempty]), if_pos hempty]
      rfl
    · rw [if_pos ⟨rfl, hempty⟩, if_neg hempty]

theorem mem_requiredNames_merged (hne : variants ≠ []) :
    name ∈ requiredNames (mergeObjectVariants variants) ↔ ∀ variant ∈ variants, name ∈ requiredNames variant := by
  have hcommon : name ∈ requiredNames (mergeObjectVariants variants) ↔ name ∈ commonNames variants := by
    rw [requiredNames, (lookup_mergeObjectVariants variants).1]
    split
    · rename_i hempty
      rw [List.isEmpty_iff.mp hempty]
      simp [textItems]
    · rw [mem_textItems]
      simp
  rw [hcommon, commonNames, List.mem_filter, List.mem_eraseDups]
  simp only [List.mem_flatten, List.mem_map, List.all_eq_true, List.elem_eq_mem, decide_eq_true_eq]
  constructor
  · rintro ⟨-, hall⟩ variant hmem
    exact hall _ ⟨variant, hmem, rfl⟩
  · intro hall
    obtain ⟨first, hfirst⟩ := List.exists_mem_of_ne_nil _ hne
    refine ⟨⟨_, ⟨first, hfirst, rfl⟩, hall first hfirst⟩, ?_⟩
    rintro _ ⟨variant, hmem, rfl⟩
    exact hall variant hmem

theorem declared_merged (variants : List Fields) : declared (mergeObjectVariants variants) = mergedProperties variants := by
  rw [declared, (lookup_mergeObjectVariants variants).2]
  by_cases hempty : (mergedProperties variants).isEmpty = true
  · rw [if_pos hempty, List.isEmpty_iff.mp hempty]
  · rw [if_neg hempty]

/-- A property that is declared as a schema with fields by all the variants and by what they are merged into. -/
theorem lookup_foldl_properties {properties : Fields} (hproperties : properties.lookup name = some (.obj fields))
    (h : ∀ variant ∈ variants, Dict.Distinct (declared variant) ∧ ∃ fields,
      (declared variant).lookup name = some (.obj fields) ∧ Dict.Distinct fields) :
    ∃ merged, (variants.foldl (fun properties variant => mergeProperties properties (declared variant)) properties).lookup
        name = some (.obj merged) ∧
      ∀ s, s ∈ requiredNames merged ↔ s ∈ requiredNames fields ∧ ∀ variant ∈ variants, ∃ fields,
        (declared variant).lookup name = some (.obj fields) ∧ s ∈ requiredNames fields := by
  induction variants generalizing properties fields with
  | nil => exact ⟨fields, hproperties, fun s => by simp⟩
  | cons variant rest ih =>
      obtain ⟨⟨hdistinct, own, hown, hfields⟩, hrest⟩ := List.forall_mem_cons.mp h
      obtain ⟨met, hmet, hnames⟩ := exists_mergePropertySchemas fields hfields
      have hlookup : (mergeProperties properties (declared variant)).lookup name = some (.obj met) := by
        rw [lookup_mergeProperties hdistinct, hown, hproperties]
        exact congrArg some hmet
      obtain ⟨merged, hmerged, hall⟩ := ih hlookup hrest
      refine ⟨merged, hmerged, fun s => ?_⟩
      rw [hall, hnames, List.forall_mem_cons, hown, and_assoc]
      simp

/-- A property that all variants require stays an object, and requires what it requires in all of them. -/
theorem exists_mergedProperty (hne : variants ≠ []) (h : ∀ variant ∈ variants, Mergeable variant)
    (hname : ∀ variant ∈ variants, name ∈ requiredNames variant) :
    ∃ merged, (mergedProperties variants).lookup name = some (.obj merged) ∧ ∀ s, s ∈ requiredNames merged ↔
      ∀ variant ∈ variants, ∃ fields, (declared variant).lookup name = some (.obj fields) ∧ s ∈ requiredNames fields := by
  have hdeclared : ∀ variant ∈ variants, Dict.Distinct (declared variant) ∧ ∃ fields,
      (declared variant).lookup name = some (.obj fields) ∧ Dict.Distinct fields := by
    intro variant hmem
    obtain ⟨-, fields, hlookup, hfields, -⟩ := (h variant hmem).required name (hname variant hmem)
    exact ⟨(h variant hmem).distinct, fields, hlookup, hfields⟩
  cases variants with
  | nil => exact absurd rfl hne
  | cons first rest =>
      obtain ⟨⟨hdistinct, own, hown, -⟩, hrest⟩ := List.forall_mem_cons.mp hdeclared
      have hlookup : (mergeProperties [] (declared first)).lookup name = some (.obj own) := by
        rw [lookup_mergeProperties hdistinct, hown]
        rfl
      obtain ⟨merged, hmerged, hall⟩ := lookup_foldl_properties hlookup hrest
      refine ⟨merged, hmerged, fun s => ?_⟩
      rw [hall, List.forall_mem_cons, hown]
      simp

/-- The merged schema requires the paths that all variants require. -/
theorem mem_paths_merged (hne : variants ≠ []) (h : ∀ variant ∈ variants, Mergeable variant) :
    path ∈ paths (mergeObjectVariants variants) ↔ ∀ variant ∈ variants, path ∈ paths variant := by
  rw [mem_paths, declared_merged]
  constructor
  · rintro (hname | ⟨name, hname, merged, hlookup, s, hs, rfl⟩) variant hmem
    · exact mem_paths.mpr (.inl ((mem_requiredNames_merged hne).mp hname variant hmem))
    · have hall := (mem_requiredNames_merged hne).mp hname
      obtain ⟨merged', hlookup', hnames⟩ := exists_mergedProperty hne h hall
      obtain rfl := Json.obj.inj (Option.some.inj (hlookup.symm.trans hlookup'))
      obtain ⟨fields, hfields, hs⟩ := (hnames s).mp hs variant hmem
      exact mem_paths.mpr (.inr ⟨name, hall variant hmem, fields, hfields, s, hs, rfl⟩)
  · intro hall
    obtain ⟨first, hfirst⟩ := List.exists_mem_of_ne_nil _ hne
    rcases mem_paths.mp (hall first hfirst) with hname | ⟨name, hname, fields, hlookup, s, hs, rfl⟩
    · -- a path without a dot is a name in every variant
      refine .inl ((mem_requiredNames_merged hne).mpr fun variant hmem => ?_)
      rcases mem_paths.mp (hall variant hmem) with hname' | ⟨name, -, fields, -, s, -, heq⟩
      · exact hname'
      · exact absurd (heq ▸ dot_mem_below name s) ((h first hfirst).required path hname).1
    · have hsame : ∀ variant ∈ variants, name ∈ requiredNames variant ∧ ∃ fields,
          (declared variant).lookup name = some (.obj fields) ∧ s ∈ requiredNames fields := by
        intro variant hmem
        rcases mem_paths.mp (hall variant hmem) with hname' | ⟨name', hname', fields', hlookup', s', hs', heq⟩
        · exact absurd (dot_mem_below name s) ((h variant hmem).required _ hname').1
        · obtain ⟨rfl, rfl⟩ := below_inj ((h first hfirst).required name hname).1
            ((h variant hmem).required name' hname').1 heq
          exact ⟨hname', fields', hlookup', hs'⟩
      obtain ⟨merged, hmerged, hnames⟩ :=
        exists_mergedProperty hne h fun variant hmem => (hsame variant hmem).1
      refine .inr ⟨name, (mem_requiredNames_merged hne).mpr fun variant hmem => (hsame variant hmem).1, merged, hmerged, s,
        (hnames s).mpr fun variant hmem => (hsame variant hmem).2, rfl⟩

/-! ### The note -/

/-- The paths of a variant that another one does not require. -/
def conditionalPaths (variants : List Fields) (variant : Fields) : List String :=
  (paths variant).filter fun path => !(variants.map paths).all (·.elem path)

/-- The values that the discriminator names a variant by. -/
def tagsOf (discriminator : Option Json) (variant : Fields) : List String :=
  match discriminatorName discriminator with
  | some propertyName => discriminatorValues ((declared variant).lookup propertyName)
  | none => []

/-- The paths that the note lists for a variant: none for a variant that the discriminator does not name. -/
def listedPaths (discriminator : Option Json) (variants : List Fields) (variant : Fields) : List String :=
  if (tagsOf discriminator variant).isEmpty then [] else conditionalPaths variants variant

/-- The clause of the note for a variant. -/
def noteClause (discriminator : Option Json) (variants : List Fields) (variant : Fields) : Option String :=
  let listed := listedPaths discriminator variants variant
  if listed.isEmpty then none
  else
    let scope := discriminatorScope ((discriminatorName discriminator).getD "") (tagsOf discriminator variant)
    some (scope ++ " requires " ++ String.intercalate ", " listed)

/-- The note is made of the clauses of the variants, with the paths listed for each. -/
theorem conditionalRequirementsNote_eq (discriminator : Option Json) (variants : List Fields) :
    conditionalRequirementsNote discriminator variants =
      if (variants.filterMap (noteClause discriminator variants)).isEmpty then none
      else some ("Conditional requirements: " ++
        String.intercalate "; " (variants.filterMap (noteClause discriminator variants)) ++ ".") := by
  have hzip : ∀ (F : Fields × List String → Option String) (rest : List Fields),
      (rest.zip (rest.map (requiredPaths 2 ""))).filterMap F = rest.filterMap fun variant => F (variant, paths variant) := by
    intro F rest
    induction rest with
    | nil => rfl
    | cons variant rest ih =>
        rw [List.map_cons, List.zip_cons_cons, List.filterMap_cons, List.filterMap_cons, ih]
  unfold conditionalRequirementsNote
  cases hname : discriminatorName discriminator with
  | none =>
      have hnothing : variants.filterMap (noteClause discriminator variants) = [] := by
        refine List.filterMap_eq_nil_iff.mpr fun variant _ => ?_
        have htags : tagsOf discriminator variant = [] := by rw [tagsOf, hname]
        simp [noteClause, listedPaths, htags]
      rw [hnothing]
      rfl
  | some propertyName =>
      rw [Option.bind_eq_bind, Option.bind_some]
      dsimp only
      rw [hzip]
      have hclauses : ∀ variant : Fields, noteClause discriminator variants variant =
          if (conditionalPaths variants variant).isEmpty || (discriminatorValues ((declared variant).lookup propertyName)).isEmpty
          then none
          else some (discriminatorScope propertyName (discriminatorValues ((declared variant).lookup propertyName)) ++
            " requires " ++ String.intercalate ", " (conditionalPaths variants variant)) := by
        intro variant
        have htags : tagsOf discriminator variant = discriminatorValues ((declared variant).lookup propertyName) := by
          rw [tagsOf, hname]
        rw [noteClause, listedPaths, htags, hname, Option.getD_some]
        by_cases hvalues : (discriminatorValues ((declared variant).lookup propertyName)).isEmpty = true <;>
          simp [hvalues]
      rw [funext hclauses]
      rfl

theorem mem_conditionalPaths : path ∈ conditionalPaths variants variant ↔
    path ∈ paths variant ∧ ¬∀ other ∈ variants, path ∈ paths other := by
  rw [conditionalPaths, List.mem_filter]
  simp

/-- The merged schema requires the paths that all variants require. The note lists paths for the variants, and with them
a variant is described exactly if the discriminator names it, or if it requires nothing that the others do not. -/
theorem requirements_exact (hne : variants ≠ []) (h : ∀ variant ∈ variants, Mergeable variant)
    (discriminator : Option Json) :
    (∀ path, path ∈ paths (mergeObjectVariants variants) ↔ ∀ variant ∈ variants, path ∈ paths variant) ∧
      (∀ variant ∈ variants, (∀ path, path ∈ paths variant ↔
          path ∈ paths (mergeObjectVariants variants) ∨ path ∈ listedPaths discriminator variants variant) ↔
        (tagsOf discriminator variant ≠ [] ∨ ∀ path ∈ paths variant, path ∈ paths (mergeObjectVariants variants))) ∧
      conditionalRequirementsNote discriminator variants =
        (let clauses := variants.filterMap (noteClause discriminator variants)
         if clauses.isEmpty then none else some ("Conditional requirements: " ++ String.intercalate "; " clauses ++ ".")) := by
  have hmerged : ∀ path, path ∈ paths (mergeObjectVariants variants) ↔ ∀ variant ∈ variants, path ∈ paths variant :=
    fun _ => mem_paths_merged hne h
  refine ⟨hmerged, fun variant hmem => ?_, conditionalRequirementsNote_eq discriminator variants⟩
  constructor
  · intro hexact
    by_cases htags : tagsOf discriminator variant = []
    · refine .inr fun path hpath => ((hexact path).mp hpath).resolve_right ?_
      rw [listedPaths, htags]
      simp
    · exact .inl htags
  · rintro htags path
    constructor
    · intro hpath
      rcases htags with htags | hnothing
      · by_cases hcommon : path ∈ paths (mergeObjectVariants variants)
        · exact .inl hcommon
        · refine .inr ?_
          rw [listedPaths, if_neg (by simpa using htags)]
          exact mem_conditionalPaths.mpr ⟨hpath, fun hall => hcommon ((hmerged path).mpr hall)⟩
      · exact .inl (hnothing path hpath)
    · rintro (hcommon | hlisted)
      · exact (hmerged path).mp hcommon variant hmem
      · rw [listedPaths] at hlisted
        split at hlisted
        · cases hlisted
        · exact (mem_conditionalPaths.mp hlisted).1

/-- A variant of the tag `"a"` that requires `"x"`. -/
def textTagged : Fields := [("properties", .obj [("kind", .obj [("enum", .arr [.str "a"])]), ("x", .obj [])]),
  ("required", .arr [.str "kind", .str "x"])]

/-- A variant of a tag that is no text, which requires `"y"`. -/
def intTagged : Fields := [("properties", .obj [("kind", .obj [("enum", .arr [.num 1])]), ("y", .obj [])]),
  ("required", .arr [.str "kind", .str "y"])]

theorem mergeable_tagged : ∀ variant ∈ [textTagged, intTagged], Mergeable variant := by
  have hdistinct : ∀ a b : String × Json, a.1 ≠ b.1 → Dict.Distinct [a, b] := by
    intro a b hne
    simpa [Dict.Distinct, Dict.keys] using hne
  intro variant hmem
  obtain rfl | rfl : variant = textTagged ∨ variant = intTagged := by simpa using hmem
  · refine ⟨hdistinct _ _ (by decide), fun name hname => ?_⟩
    obtain rfl | rfl : name = "kind" ∨ name = "x" := by
      have hname : name ∈ ["kind", "x"] := hname
      simpa using hname
    · exact ⟨by decide, _, rfl, by simp [Dict.Distinct, Dict.keys], fun s hs => by cases hs⟩
    · exact ⟨by decide, _, rfl, by simp [Dict.Distinct, Dict.keys], fun s hs => by cases hs⟩
  · refine ⟨hdistinct _ _ (by decide), fun name hname => ?_⟩
    obtain rfl | rfl : name = "kind" ∨ name = "y" := by
      have hname : name ∈ ["kind", "y"] := hname
      simpa using hname
    · exact ⟨by decide, _, rfl, by simp [Dict.Distinct, Dict.keys], fun s hs => by cases hs⟩
    · exact ⟨by decide, _, rfl, by simp [Dict.Distinct, Dict.keys], fun s hs => by cases hs⟩

theorem requirements_exact_tagged : [textTagged, intTagged] ≠ [] ∧ (∀ variant ∈ [textTagged, intTagged], Mergeable variant) ∧
    ∀ path, path ∈ paths (mergeObjectVariants [textTagged, intTagged]) ↔
      ∀ variant ∈ [textTagged, intTagged], path ∈ paths variant :=
  ⟨by decide, mergeable_tagged, (requirements_exact (by decide) mergeable_tagged none).1⟩

/-- The note omits what a variant requires whose tag is no text. -/
theorem note_omits : ¬∀ (discriminator : Option Json) (variants : List Fields), variants ≠ [] →
    (∀ variant ∈ variants, Mergeable variant) → ∀ variant ∈ variants, ∀ path, path ∈ paths variant ↔
      path ∈ paths (mergeObjectVariants variants) ∨ path ∈ listedPaths discriminator variants variant := by
  intro h
  have hexact := h (some (.obj [("propertyName", .str "kind")])) [textTagged, intTagged] (by decide) mergeable_tagged
    intTagged (by simp) "y"
  have hy : "y" ∈ paths intTagged := by decide
  rcases hexact.mp hy with hcommon | hlisted
  · exact absurd ((mem_paths_merged (by decide) mergeable_tagged).mp hcommon textTagged (by simp)) (by decide)
  · have htags : tagsOf (some (.obj [("propertyName", .str "kind")])) intTagged = [] := rfl
    rw [listedPaths, htags] at hlisted
    cases hlisted

end GdbMcp
