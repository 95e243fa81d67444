import GdbMcp.RequestModels

/-! The paths of validation errors. The location of an error is cleaned of the tags of unions along the published schema,
in which the alternatives of a union have been merged into one object. -/

namespace GdbMcp

/-! ### The cleaning of a location -/

/-- An item of a location as it is reported. -/
inductive LocationItem where
  | text (text : String)
  | index (index : Nat)

def tagPropertyNames : List String := ["action", "kind"]

/-- The schema of a property of a node. -/
def propertyOf (node : Json) (name : String) : Option Json :=
  match node with
  | .obj fields => (declared fields).lookup name
  | _ => none

/-- The schema of the items of a node. -/
def itemsOf : Json → Json
  | .obj fields => (fields.lookup "items").getD (.obj [])
  | _ => .obj []

def enumHas (schema : Json) (segment : String) : Bool :=
  match schema with
  | .obj fields =>
    match fields.lookup "enum" with
    | some (.arr values) => values.any (·.pyEq (.str segment))
    | _ => false
  | _ => false

/-- The discriminator property whose enum contains the segment. -/
def matchingTagProperty (node : Json) (segment : String) : Option String :=
  tagPropertyNames.find? fun name => (propertyOf node name).any (enumHas · segment)

/-- `path[-1] = f"{path[-1]}[{index}]"`, if there is a last element. -/
def bracketLast (path : List String) (index : Nat) : List String :=
  match path.getLast? with
  | some last => path.dropLast ++ [s!"{last}[{index}]"]
  | none => []

/-- How far the cleaning of a location has come. A tag is kept with the path of its union and its discriminator. -/
structure Cleaning where
  path : List String := []
  tags : List (List String × String × String) := []
  node : Json

def Cleaning.step (c : Cleaning) : LocationItem → Cleaning
  | .index index => { c with path := bracketLast c.path index, node := itemsOf c.node }
  | .text segment =>
    match propertyOf c.node segment, matchingTagProperty c.node segment with
    | some property, _ => { c with path := c.path ++ [segment], node := property }
    | none, some name => { c with tags := c.tags ++ [(c.path, name, segment)] }
    | none, none => { c with path := c.path ++ [segment], node := .obj [] }

/-- The public property path, and the union tags dropped on the way. -/
def cleanLocation (schema : Json) (loc : List LocationItem) : List String × List (List String × String × String) :=
  let c := loc.foldl Cleaning.step { node := schema }
  (c.path, c.tags)

/-! ### The location without its tags -/

/-- A segment as it is reported. -/
def Segment.reported : Segment → LocationItem
  | .name field => .text field
  | .index i => .index i
  | .tag value => .text value

def Segment.extend (path : List String) : Segment → List String
  | .name field => path ++ [field]
  | .index i => bracketLast path i
  | .tag _ => path

/-- The names and the indices of a location. -/
def publicPath (location : List Segment) : List String := location.foldl Segment.extend []

/-! ### Tags that are spelled like properties -/

/-- A tag on the way is spelled like a property of the node. -/
def clashes : Json → List Segment → Bool
  | _, [] => false
  | node, .index _ :: rest => clashes (itemsOf node) rest
  | node, .name name :: rest => clashes ((propertyOf node name).getD (.obj [])) rest
  | node, .tag tag :: rest => (propertyOf node tag).isSome || clashes node rest

/-- A node without properties, also below its items. -/
def bare : Json → Bool
  | .obj fields => (declared fields).isEmpty && (fields.lookup "items").isNone
  | _ => true

mutual

/-- The node has the fields and the tags of a type; a tag that is spelled like a property is spelled like a bare one. -/
def reads (node : Json) : RequestType → Bool
  | .list item => reads (itemsOf node) item
  | .model _ fields => readsFields node fields
  | .nullable type => reads node type
  | .tagged discriminator alternatives => readsAlternatives node discriminator alternatives
  | _ => true
termination_by structural type => type

def readsFields (node : Json) : List (String × Bool × RequestType) → Bool
  | [] => true
  | (name, _, type) :: rest =>
    (match propertyOf node name with
      | some property => reads property type
      | none => false) && readsFields node rest

def readsAlternatives (node : Json) (discriminator : String) : List RequestType → Bool
  | [] => true
  | type :: rest =>
    ((type.tags discriminator).all fun tag =>
      match propertyOf node tag with
      | some property => bare property
      | none => (matchingTagProperty node tag).isSome) &&
      reads node type && readsAlternatives node discriminator rest

end

mutual

/-- The locations of a type at which a tag is spelled like a property, up to the tag; indices are 0. -/
def clashPaths (node : Json) : RequestType → List (List Segment)
  | .list item => (clashPaths (itemsOf node) item).map (.index 0 :: ·)
  | .model _ fields => clashPathsFields node fields
  | .nullable type => clashPaths node type
  | .tagged discriminator alternatives => clashPathsAlternatives node discriminator alternatives
  | _ => []
termination_by structural type => type

def clashPathsFields (node : Json) : List (String × Bool × RequestType) → List (List Segment)
  | [] => []
  | (name, _, type) :: rest =>
    (clashPaths ((propertyOf node name).getD (.obj [])) type).map (.name name :: ·) ++ clashPathsFields node rest

def clashPathsAlternatives (node : Json) (discriminator : String) : List RequestType → List (List Segment)
  | [] => []
  | type :: rest =>
    ((type.tags discriminator).flatMap fun tag =>
      if (propertyOf node tag).isSome then [[.tag tag]] else (clashPaths node type).map (.tag tag :: ·)) ++
      clashPathsAlternatives node discriminator rest

end

/-! ### Lengths -/

variable {node : Json} {path : List String} {tags : List (List String × String × String)} {location rest : List Segment}
  {type : RequestType}

theorem length_bracketLast (path : List String) (index : Nat) : (bracketLast path index).length = path.length := by
  rw [bracketLast]
  cases hlast : path.getLast? with
  | none =>
      rw [List.getLast?_eq_none_iff] at hlast
      rw [hlast]
  | some last =>
      have hne : path ≠ [] := fun hempty => by simp [hempty] at hlast
      have hpos := List.length_pos_of_ne_nil hne
      simp only [List.length_append, List.length_dropLast, List.length_singleton]
      omega

/-- The number of names and tags of a location. -/
def texts (location : List Segment) : Nat := location.countP fun segment =>
  match segment with
  | .index _ => false
  | _ => true

theorem length_publicPath_le (path : List String) (location : List Segment) :
    (location.foldl Segment.extend path).length ≤ path.length + texts location := by
  induction location generalizing path with
  | nil => exact Nat.le_refl _
  | cons segment rest ih =>
      rw [List.foldl_cons]
      refine (ih _).trans ?_
      cases segment with
      | name field =>
          simp only [Segment.extend, List.length_append, List.length_singleton, texts, List.countP_cons, if_true]
          omega
      | index i => simp [Segment.extend, length_bracketLast, texts]
      | tag value =>
          simp only [Segment.extend, texts, List.countP_cons, if_true]
          omega

theorem propertyOf_bare (h : bare node = true) (name : String) : propertyOf node name = none := by
  cases node with
  | obj fields =>
      rw [bare, Bool.and_eq_true, List.isEmpty_iff] at h
      rw [propertyOf, h.1]
      rfl
  | _ => rfl

theorem matchingTagProperty_bare (h : bare node = true) (segment : String) : matchingTagProperty node segment = none := by
  rw [matchingTagProperty, List.find?_eq_none]
  intro name _
  rw [propertyOf_bare h]
  exact Bool.false_ne_true

theorem bare_itemsOf (h : bare node = true) : bare (itemsOf node) = true := by
  cases node with
  | obj fields =>
      rw [bare, Bool.and_eq_true, Option.isNone_iff_eq_none] at h
      rw [itemsOf, h.2]
      rfl
  | _ => rfl

/-- Below a bare node every name and every tag is kept. -/
theorem length_clean_bare (h : bare node = true) (location : List Segment) :
    ((location.map Segment.reported).foldl Cleaning.step ⟨path, tags, node⟩).path.length = path.length + texts location := by
  induction location generalizing path node with
  | nil => rfl
  | cons segment rest ih =>
      have htext : ∀ text : String, Cleaning.step ⟨path, tags, node⟩ (.text text) = ⟨path ++ [text], tags, .obj []⟩ := by
        intro text
        rw [Cleaning.step]
        dsimp only
        rw [propertyOf_bare h, matchingTagProperty_bare h]
      rw [List.map_cons, List.foldl_cons]
      cases segment with
      | name field =>
          rw [Segment.reported, htext, ih rfl, List.length_append, List.length_singleton]
          simp only [texts, List.countP_cons, if_true]
          omega
      | index i =>
          rw [Segment.reported, Cleaning.step]
          dsimp only
          rw [ih (bare_itemsOf h), length_bracketLast]
          simp [texts]
      | tag value =>
          rw [Segment.reported, htext, ih rfl, List.length_append, List.length_singleton]
          simp only [texts, List.countP_cons, if_true]
          omega

/-! ### Reads -/

theorem reads_field {model name : String} {fields : List (String × Bool × RequestType)} {required : Bool}
    (h : reads node (.model model fields) = true) (hmem : (name, required, type) ∈ fields) :
    ∃ property, propertyOf node name = some property ∧ reads property type = true := by
  rw [reads] at h
  induction fields with
  | nil => cases hmem
  | cons field rest ih =>
      obtain ⟨name', required', type'⟩ := field
      rw [readsFields, Bool.and_eq_true] at h
      rcases List.mem_cons.mp hmem with heq | hmem
      · cases heq
        cases hproperty : propertyOf node name with
        | none => simp [hproperty] at h
        | some property => exact ⟨property, rfl, by simpa [hproperty] using h.1⟩
      · exact ih h.2 hmem

theorem reads_alternative {discriminator tag : String} {alternatives : List RequestType}
    (h : reads node (.tagged discriminator alternatives) = true) (hmem : type ∈ alternatives)
    (htag : tag ∈ type.tags discriminator) :
    (∀ property, propertyOf node tag = some property → bare property = true) ∧
      (propertyOf node tag = none → (matchingTagProperty node tag).isSome = true) ∧ reads node type = true := by
  rw [reads] at h
  induction alternatives with
  | nil => cases hmem
  | cons alternative rest ih =>
      rw [readsAlternatives, Bool.and_eq_true, Bool.and_eq_true] at h
      rcases List.mem_cons.mp hmem with rfl | hmem
      · have hone := List.all_eq_true.mp h.1.1 tag htag
        refine ⟨fun property hproperty => ?_, fun hnone => ?_, h.1.2⟩
        · rw [hproperty] at hone
          exact hone
        · rw [hnone] at hone
          exact hone
      · exact ih h.2 hmem

variable (path tags) in
/-- Where no tag clashes, the path is the location without its tags; where one does, the path is too long. -/
theorem clean_located (hlocated : type.Located location) (hreads : reads node type = true) :
    if clashes node location then
      (location.foldl Segment.extend path).length <
        ((location.map Segment.reported).foldl Cleaning.step ⟨path, tags, node⟩).path.length
    else ((location.map Segment.reported).foldl Cleaning.step ⟨path, tags, node⟩).path =
      location.foldl Segment.extend path := by
  induction hlocated generalizing path tags node with
  | here => rfl
  | item index _ ih => exact ih _ _ hreads
  | @field model name fields required type rest hmem _ ih =>
      obtain ⟨property, hproperty, hreads⟩ := reads_field hreads hmem
      have hstep : Cleaning.step ⟨path, tags, node⟩ (.text name) = ⟨path ++ [name], tags, property⟩ := by
        rw [Cleaning.step]
        dsimp only
        rw [hproperty]
      rw [clashes, hproperty, List.map_cons, List.foldl_cons, List.foldl_cons, Segment.reported, hstep]
      exact ih _ _ hreads
  | present _ ih => exact ih _ _ hreads
  | @alternative discriminator tag alternatives type rest hmem htag _ ih =>
      obtain ⟨hbare, hmatching, hreads⟩ := reads_alternative hreads hmem htag
      rw [clashes, List.map_cons, List.foldl_cons, List.foldl_cons, Segment.reported]
      cases hproperty : propertyOf node tag with
      | some property =>
          -- a clash: the tag is kept, and below the bare property so is everything else
          have hstep : Cleaning.step ⟨path, tags, node⟩ (.text tag) = ⟨path ++ [tag], tags, property⟩ := by
            rw [Cleaning.step]
            dsimp only
            rw [hproperty]
          rw [hstep, Option.isSome_some, Bool.true_or, if_pos rfl, length_clean_bare (hbare _ hproperty)]
          have hle := length_publicPath_le path rest
          rw [Segment.extend, List.length_append, List.length_singleton]
          omega
      | none =>
          -- the tag is dropped, and the node stays that of the union
          obtain ⟨name, hname⟩ := Option.isSome_iff_exists.mp (hmatching hproperty)
          have hstep : Cleaning.step ⟨path, tags, node⟩ (.text tag) = ⟨path, tags ++ [(path, name, tag)], node⟩ := by
            rw [Cleaning.step]
            dsimp only
            rw [hproperty, hname]
          rw [hstep, Option.isSome_none, Bool.false_or]
          exact ih _ _ hreads

/-! ### Where tags clash -/

/-- The segment, at the first index for any. -/
def Segment.atFirst : Segment → Segment
  | .index _ => .index 0
  | segment => segment

theorem clashPaths_field {name : String} {fields : List (String × Bool × RequestType)} {required : Bool}
    (hmem : (name, required, type) ∈ fields) (hrest : rest ∈ clashPaths ((propertyOf node name).getD (.obj [])) type) :
    .name name :: rest ∈ clashPathsFields node fields := by
  induction fields with
  | nil => cases hmem
  | cons field others ih =>
      rw [clashPathsFields, List.mem_append]
      rcases List.mem_cons.mp hmem with heq | hmem
      · cases heq
        exact Or.inl (List.mem_map_of_mem hrest)
      · exact Or.inr (ih hmem)

theorem clashPaths_alternative {discriminator tag : String} {alternatives : List RequestType}
    (hmem : type ∈ alternatives) (htag : tag ∈ type.tags discriminator)
    (hrest : rest ∈ if (propertyOf node tag).isSome then [[.tag tag]] else (clashPaths node type).map (.tag tag :: ·)) :
    rest ∈ clashPathsAlternatives node discriminator alternatives := by
  induction alternatives with
  | nil => cases hmem
  | cons alternative others ih =>
      rw [clashPathsAlternatives, List.mem_append]
      rcases List.mem_cons.mp hmem with rfl | hmem
      · exact Or.inl (List.mem_flatMap.mpr ⟨tag, htag, hrest⟩)
      · exact Or.inr (ih hmem)

/-- A location with a clash begins with one of those that are listed for its type. -/
theorem exists_clashPath (hlocated : type.Located location) (h : clashes node location = true) :
    ∃ clash ∈ clashPaths node type, clash <+: location.map Segment.atFirst := by
  induction hlocated generalizing node with
  | here => cases h
  | item index _ ih =>
      obtain ⟨clash, hmem, hbegins⟩ := ih h
      exact ⟨_, List.mem_map_of_mem hmem, List.cons_prefix_cons.mpr ⟨rfl, hbegins⟩⟩
  | field hmem _ ih =>
      obtain ⟨clash, hclash, hbegins⟩ := ih h
      exact ⟨_, clashPaths_field hmem hclash, List.cons_prefix_cons.mpr ⟨rfl, hbegins⟩⟩
  | present _ ih => exact ih h
  | @alternative discriminator tag alternatives type rest hmem htag _ ih =>
      rw [clashes, Bool.or_eq_true] at h
      by_cases hproperty : (propertyOf node tag).isSome
      · refine ⟨[.tag tag], clashPaths_alternative hmem htag ?_, List.cons_prefix_cons.mpr ⟨rfl, List.nil_prefix⟩⟩
        rw [if_pos hproperty]
        exact List.mem_singleton_self _
      · obtain ⟨clash, hclash, hbegins⟩ := ih (h.resolve_left hproperty)
        refine ⟨.tag tag :: clash, clashPaths_alternative hmem htag ?_, List.cons_prefix_cons.mpr ⟨rfl, hbegins⟩⟩
        rw [if_neg hproperty]
        exact List.mem_map_of_mem hclash

theorem clashes_of_prefix {clash : List Segment} (hbegins : clash <+: location) (h : clashes node clash = true) :
    clashes node location = true := by
  induction clash generalizing node location with
  | nil => cases h
  | cons segment rest ih =>
      obtain ⟨others, rfl⟩ := hbegins
      have hrest : rest <+: rest ++ others := List.prefix_append rest others
      cases segment with
      | index i =>
          rw [List.cons_append, clashes]
          exact ih hrest h
      | name field =>
          rw [List.cons_append, clashes]
          exact ih hrest h
      | tag tag =>
          rw [clashes, Bool.or_eq_true] at h
          rw [List.cons_append, clashes, Bool.or_eq_true]
          exact h.imp id (ih hrest)

/-- Without indices, the first indices are any. -/
theorem prefix_of_atFirst {clash : List Segment} (hindices : ∀ i, .index i ∉ clash)
    (hbegins : clash <+: location.map Segment.atFirst) : clash <+: location := by
  induction clash generalizing location with
  | nil => exact List.nil_prefix
  | cons segment rest ih =>
      cases location with
      | nil => cases List.prefix_nil.mp hbegins
      | cons first others =>
          obtain ⟨rfl, hrest⟩ := List.cons_prefix_cons.mp hbegins
          have hothers := ih (fun i hmem => hindices i (List.mem_cons_of_mem _ hmem)) hrest
          cases first with
          | index i => exact absurd (List.mem_cons_self ..) (hindices 0)
          | name field => exact List.cons_prefix_cons.mpr ⟨rfl, hothers⟩
          | tag tag => exact List.cons_prefix_cons.mpr ⟨rfl, hothers⟩

/-! ### The tools -/

/-- The tags of the requests of a tool that are spelled like properties: kinds of the location selector, next to the two
properties of that name in the merged selector. -/
def clashingLocations (tool : String) : List (List Segment) :=
  if tool = "gdb_inspect_query" then
    ["disassembly", "source"].flatMap fun action => ["function", "address"].map fun kind =>
      [.tag action, .name "query", .name "location", .tag kind]
  else []

theorem index_notMem_clashingLocations {tool : String} {clash : List Segment} (h : clash ∈ clashingLocations tool)
    (i : Nat) : .index i ∉ clash := by
  rw [clashingLocations] at h
  split at h
  · obtain ⟨action, -, h⟩ := List.mem_flatMap.mp h
    obtain ⟨kind, -, rfl⟩ := List.mem_map.mp h
    simp
  · cases h

/-- The published schema of a tool has the fields and the tags of its requests, and its clashes are the listed ones. -/
def publishes (tool : String) (type : RequestType) : Bool :=
  let node := type.publicInputSchema
  reads node type && decide (clashPaths node type = clashingLocations tool) &&
    (clashingLocations tool).all (clashes node)

theorem publishes_toolModels : toolModels.all (fun t => publishes t.1 t.2) = true := by decide +kernel

end GdbMcp
