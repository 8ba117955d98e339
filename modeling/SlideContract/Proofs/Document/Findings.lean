import SlideContract.Proofs.Document.Breach
import SlideContract.Proofs.Document.Close
import SlideContract.Proofs.Schema.Found

/-!
# What documents find

The schema of a tree finds in a value exactly the breaches of the tree. The keywords of the schema
are taken one group after the other: the type, the bounds, the items, the names and the properties
each find their part of the breaches, whatever the others find.

* `finds_of_close`: closing a proper tree succeeds, and the schema of the closed tree finds the
  breaches of the tree;
* `finds_of_ofRoot`: a whole proper tree has a document, and it finds the breaches.
-/

namespace SlideContract.Document
open Schema TypeTree

/-! ## Groups of keywords -/

/-- What the keywords in some members of a schema find, among all the keywords of the schema. -/
def part (keywords : List Keyword) (members : List (String × Json)) (v : Json) : Found :=
  .all ((keywordsOf members).map fun k => k.check keywords v)

lemma keywordsOf_append (members others : List (String × Json)) :
    keywordsOf (members ++ others) = keywordsOf members ++ keywordsOf others := by
  induction members with
  | nil =>
    rw [keywordsOf]
    rfl
  | cons m rest ih =>
    obtain ⟨name, v⟩ := m
    rw [List.cons_append]
    cases v <;> simp only [keywordsOf, ih, List.cons_append]

/-- Groups of keywords find what they find together. -/
lemma finds_part_append {keywords : List Keyword} {members others : List (String × Json)} {v : Json}
    {l m : List Breach} (h : Finds (part keywords members v) l)
    (hothers : Finds (part keywords others v) m) :
    Finds (part keywords (members ++ others) v) (l ++ m) := by
  unfold part at h hothers ⊢
  rw [keywordsOf_append, List.map_append, Found.all_append]
  exact h.andThen hothers

/-- A schema finds what its keywords find. -/
lemma check_obj (members : List (String × Json)) (v : Json) :
    check (.obj members) v = part (keywordsOf members) members v := by
  unfold check
  rfl

/-- A single keyword finds what its rule says. -/
lemma finds_part_single {keywords : List Keyword} {name : String} {value v : Json} {k : Keyword}
    {l : List Breach} (hk : keywordsOf [(name, value)] = [k])
    (h : Finds (k.check keywords v) l) : Finds (part keywords [(name, value)] v) l := by
  unfold part
  rw [hk]
  have hall := h.andThen .nothing
  rw [List.append_nil] at hall
  exact hall

lemma finds_part_nil (keywords : List Keyword) (v : Json) : Finds (part keywords [] v) [] := by
  unfold part
  rw [keywordsOf]
  exact .nothing

/-! ## Types -/

/-- The value has the type of a name. -/
def hasType (type : String) : Json → Bool
  | .obj _ => type == "object"
  | .arr _ => type == "array"
  | .str _ => type == "string"
  | .num _ => type == "number"
  | .bool _ => type == "boolean"
  | .null => false

lemma hasTypeNamed_eq {type : String}
    (htype : type ∈ ["object", "array", "string", "number", "boolean"]) (v : Json) :
    Keyword.hasTypeNamed v type = .ok (hasType type v) := by
  simp only [List.mem_cons, List.not_mem_nil, or_false] at htype
  rcases htype with rfl | rfl | rfl | rfl | rfl <;> cases v <;> rfl

/-- The keyword `type` finds a value of another type. -/
lemma finds_type (keywords : List Keyword) {type : String}
    (htype : type ∈ ["object", "array", "string", "number", "boolean"]) (v : Json) :
    Finds (part keywords [("type", .str type)] v) (Breach.when (!hasType type v) "type") := by
  refine finds_part_single (by simp only [keywordsOf]; rfl) ?_
  show Finds (Keyword.checkType _ v) _
  unfold Keyword.checkType
  have hholds : Keyword.hasAnyType v [.str type] = .ok (hasType type v) := by
    unfold Keyword.hasAnyType
    rw [hasTypeNamed_eq htype]
    cases hasType type v <;> rfl
  show Finds (Found.ofResult (Keyword.hasAnyType v [.str type]) _) _
  rw [hholds]
  exact finds_violatedIf _ _ _ _

/-! ## Bounds -/

/-- The number that bounds of a kind compare. -/
def measure (low : String) : Json → Option Number
  | .str s => if low = "minLength" then some (.int s.length) else none
  | .arr items => if low = "minItems" then some (.int items.length) else none
  | .num n => if low = "minimum" then some n else none
  | _ => none

/-- The breaches of bounds by a value, if they are about it. -/
def boundBreaches (low high : String) (b : Bounds) (v : Json) : List Breach :=
  match measure low v with
  | some n => Breach.ofBounds low high b n
  | none => []

/-- The members of bounds find the bounds that a value does not keep. -/
lemma finds_bounds (keywords : List Keyword) (low high : String)
    (h : (low, high) ∈
      [("minLength", "maxLength"), ("minItems", "maxItems"), ("minimum", "maximum")])
    (b : Bounds) (v : Json) :
    Finds (part keywords (boundMembers low high b) v) (boundBreaches low high b v) := by
  have hkeywords : ∀ name bound, keywordsOf [(name, .num bound)]
      = [{ name, value := .num bound, whole := check (.num bound) }] := by
    intro name bound
    simp only [keywordsOf]
  -- each bound compares the same number, or none of them looks at the value
  have hlow : ∀ bound, Finds (part keywords [(low, .num bound)] v)
      (Breach.when ((measure low v).any (·.lt bound)) low) := by
    intro bound
    refine finds_part_single (hkeywords low bound) ?_
    simp only [List.mem_cons, Prod.mk.injEq, List.not_mem_nil, or_false] at h
    rcases h with ⟨rfl, rfl⟩ | ⟨rfl, rfl⟩ | ⟨rfl, rfl⟩ <;> cases v <;>
      first | exact .nothing | exact finds_violatedIf _ _ _ _
  have hhigh : ∀ bound, Finds (part keywords [(high, .num bound)] v)
      (Breach.when ((measure low v).any (bound.lt ·)) high) := by
    intro bound
    refine finds_part_single (hkeywords high bound) ?_
    simp only [List.mem_cons, Prod.mk.injEq, List.not_mem_nil, or_false] at h
    rcases h with ⟨rfl, rfl⟩ | ⟨rfl, rfl⟩ | ⟨rfl, rfl⟩ <;> cases v <;>
      first | exact .nothing | exact finds_violatedIf _ _ _ _
  have hboth : Finds (part keywords (boundMembers low high b) v)
      (Breach.when (b.min.any fun bound => (measure low v).any (·.lt bound)) low ++
        Breach.when (b.max.any fun bound => (measure low v).any (bound.lt ·)) high) := by
    obtain ⟨min, max⟩ := b
    refine finds_part_append ?_ ?_
    · cases min with
      | none => exact finds_part_nil _ _
      | some bound => exact hlow bound
    · cases max with
      | none => exact finds_part_nil _ _
      | some bound => exact hhigh bound
  unfold boundBreaches
  cases hn : measure low v with
  | none =>
    rw [hn] at hboth
    obtain ⟨min, max⟩ := b
    cases min <;> cases max <;> exact hboth
  | some n =>
    rw [hn] at hboth
    exact hboth

/-! ## Values of enumerations -/

lemma any_equal_strings (values : List String) (v : Json) :
    (values.map Json.str).any (fun value => Json.equal value v)
      = match v with
        | .str s => values.contains s
        | _ => false := by
  induction values with
  | nil => cases v <;> rfl
  | cons value rest ih =>
    rw [List.map_cons, List.any_cons, ih]
    cases v with
    | str s =>
      show (Json.equal (.str value) (.str s) || rest.contains s) = (value :: rest).contains s
      rw [Json.equal, List.contains_cons, Bool.beq_comm]
    | _ => simp [Json.equal]

/-- The keyword `enum` finds what is none of its values. -/
lemma finds_enum (keywords : List Keyword) (values : List String) (v : Json) :
    Finds (part keywords [("enum", .arr (values.map .str))] v)
      (Breach.when (match v with
        | .str s => !values.contains s
        | _ => true) "enum") := by
  refine finds_part_single (by simp only [keywordsOf]; rfl) ?_
  show Finds (Keyword.violatedIf _ v (!(values.map Json.str).any _) _) _
  rw [any_equal_strings]
  have hfound := finds_violatedIf
    { name := "enum", value := .arr (values.map .str), whole := fun _ => .failed .noSchema,
      items := itemChecks (values.map .str) } v
  cases v <;> exact hfound _ _

/-! ## Items -/

/-- The keyword `items` finds what its schema finds in each item. -/
lemma finds_items (keywords : List Keyword) {inner : List (String × Json)}
    {breaches : Json → List Breach} (h : ∀ v, Finds (check (.obj inner) v) (breaches v))
    (items : List Json) :
    Finds (part keywords [("items", .obj inner)] (.arr items)) (Breach.ofItems breaches items) := by
  refine finds_part_single (by simp only [keywordsOf]; rfl) ?_
  show Finds (.all (items.zipIdx.map _)) (items.zipIdx.flatMap _)
  refine Finds.all ?_
  rintro ⟨item, i⟩ -
  have hitem := (h item).below (.index i)
  rw [check_obj] at hitem
  exact hitem

lemma finds_items_nothing (keywords : List Keyword) {inner : List (String × Json)} {v : Json}
    (h : hasType "array" v = false) : Finds (part keywords [("items", .obj inner)] v) [] := by
  refine finds_part_single (by simp only [keywordsOf]; rfl) ?_
  cases v with
  | arr items => exact absurd (show ("array" == "array") = false from h) (by decide)
  | _ => exact .nothing

/-! ## Names -/

/-- The keyword `required` finds each missing name. -/
lemma finds_required (keywords : List Keyword) (names : List String)
    (members : List (String × Json)) :
    Finds (part keywords [("required", .arr (names.map .str))] (.obj members))
      ((names.filter fun name => !Entries.has name members).map fun _ => ([], "required")) := by
  refine finds_part_single (by simp only [keywordsOf]; rfl) ?_
  show Finds (.all ((names.map Json.str).map _)) _
  rw [List.map_map]
  -- one missing name is one breach
  have hflat : (names.filter fun name => !Entries.has name members).map
      (fun _ => (([], "required") : Breach))
        = names.flatMap fun name => Breach.when (!Entries.has name members) "required" := by
    induction names with
    | nil => rfl
    | cons name rest ih =>
      rw [List.filter_cons, List.flatMap_cons, ← ih]
      cases Entries.has name members <;> rfl
  rw [hflat]
  refine Finds.all ?_
  intro name _
  have hhas : Keyword.hasName members (.str name) = .ok (Entries.has name members) := rfl
  simp only [Function.comp_apply, hhas, Found.ofResult]
  cases Entries.has name members with
  | true => exact .nothing
  | false => exact .one _

lemma get?_keywordsOf (name : String) (members : List (String × Json)) :
    (Keyword.get? name (keywordsOf members)).map (·.value) = Entries.get? name members := by
  induction members with
  | nil =>
    rw [keywordsOf]
    rfl
  | cons m rest ih =>
    obtain ⟨n, v⟩ := m
    unfold Entries.get?
    split
    · rename_i heq
      cases v <;> simp [keywordsOf, Keyword.get?, heq]
    · rename_i hne
      have hbeq : (n == name) = false := beq_false_of_ne hne
      rw [← ih]
      cases v <;> simp [keywordsOf, Keyword.get?, hbeq]

lemma extraNames_eq (schemas : List (String × Json)) (names : List String) :
    Keyword.extraNames (.obj schemas) [] names
      = .ok (names.filter fun name => !Entries.has name schemas) := by
  induction names with
  | nil => rfl
  | cons name rest ih =>
    have hincludes : Keyword.includes (.obj schemas) name = .ok (Entries.has name schemas) := rfl
    unfold Keyword.extraNames
    rw [ih, hincludes, List.filter_cons]
    cases Entries.has name schemas <;> rfl

/-- The test whether an object has names that are no properties. -/
lemma isEmpty_extra (schemas members : List (String × Json)) :
    ((Entries.names members).filter fun name => !Entries.has name schemas).isEmpty
      = !(Entries.names members).any fun name => !(Entries.names schemas).contains name := by
  have hhas : ∀ name, Entries.has name schemas = (Entries.names schemas).contains name := by
    intro name
    rw [Bool.eq_iff_iff, Entries.has_iff_mem_names, List.contains_iff_mem]
  simp only [hhas]
  rw [Bool.eq_iff_iff]
  simp [List.isEmpty_iff]

/-- A closed schema finds once that there are names without a property. -/
lemma finds_additional (keywords : List Keyword) (schemas : List (String × Json))
    (hproperties : (Keyword.get? "properties" keywords).map (·.value) = some (.obj schemas))
    (hpatterns : (Keyword.get? "patternProperties" keywords).map (·.value) = none)
    (members : List (String × Json)) :
    Finds (part keywords [("additionalProperties", .bool false)] (.obj members))
      (Breach.when ((Entries.names members).any fun name => !(Entries.names schemas).contains name)
        "additionalProperties") := by
  have hkeyword : ∀ k : Keyword, k.name = "additionalProperties" → k.value = .bool false →
      Finds (Keyword.checkAdditional keywords k (.obj members))
        (Breach.when
          ((Entries.names members).any fun name => !(Entries.names schemas).contains name)
          "additionalProperties") := by
    intro k hname hvalue
    have hpattern : (String.intercalate "|" []).toList = [] := by decide
    have hfalsy : (Json.bool false).isFalsy = true := rfl
    unfold Keyword.checkAdditional
    simp only [hproperties, hpatterns, hvalue, Option.getD_some, Option.getD_none]
    show Finds (Found.ofResult (Keyword.extraNames (.obj schemas)
      (String.intercalate "|" []).toList (Entries.names members)) _) _
    -- without patterns the extra names are those without a property, and any of them is one
    -- violation
    rw [hpattern, extraNames_eq]
    simp only [Found.ofResult, isEmpty_extra, hfalsy, Bool.not_not, Bool.true_and]
    cases (Entries.names members).any fun name => !(Entries.names schemas).contains name with
    | true =>
      have hwhen : Breach.when true "additionalProperties" = [([], k.name)] := by
        rw [hname]
        rfl
      rw [hwhen]
      exact .one _
    | false => exact .nothing
  have hk : keywordsOf [("additionalProperties", .bool false)]
      = [{ name := "additionalProperties", value := .bool false,
           whole := check (.bool false) }] := by
    simp only [keywordsOf]
  have hfound := hkeyword
    { name := "additionalProperties", value := .bool false, whole := check (.bool false) } rfl rfl
  exact finds_part_single hk hfound

/-! ## Properties -/

/-- A schema finds in every value the breaches of a tree. -/
def FindsBreaches (asItem : Bool) (tree : TypeTree) (schema : Json) : Prop :=
  (∃ inner, schema = .obj inner) ∧ ∀ v, Finds (check schema v) (breaches asItem tree v)

/-- The keyword `properties` finds what its schemas find in the members that are there. -/
lemma finds_properties (keywords : List Keyword) {properties : List (String × TypeTree)}
    {schemas : List (String × Json)} (h : Matched (FindsBreaches false) properties schemas)
    (members : List (String × Json)) :
    Finds (part keywords [("properties", .obj schemas)] (.obj members))
      (propertyBreaches properties members) := by
  refine finds_part_single (by simp only [keywordsOf]; rfl) ?_
  show Finds (.all ((memberChecks schemas).map _)) _
  -- along both lists: the breaches of a property that is there lie below its name
  induction h with
  | nil =>
    simp only [memberChecks, propertyBreaches]
    exact .nothing
  | cons hfirst hrest ih =>
    rename_i p schema properties schemas
    obtain ⟨name, tree⟩ := p
    obtain ⟨name', value⟩ := schema
    obtain ⟨rfl, ⟨inner, rfl⟩, hfinds⟩ := hfirst
    simp only [memberChecks, propertyBreaches, List.map_cons]
    refine Finds.andThen ?_ ih
    cases Entries.get? name members with
    | none => exact .nothing
    | some v => exact (hfinds v).below (.name name)

/-! ## Schemas -/

lemma finds_typed (type : String) {members : List (String × Json)} {v : Json} {l : List Breach}
    (htype : type ∈ ["object", "array", "string", "number", "boolean"])
    (h : Finds (part (keywordsOf (("type", .str type) :: members)) members v) l) :
    Finds (check (typed type members) v) (Breach.when (!hasType type v) "type" ++ l) := by
  unfold typed
  rw [check_obj]
  exact finds_part_append (finds_type _ htype v) h

lemma finds_string (b : Bounds) (v : Json) :
    Finds (check (typed "string" (boundMembers "minLength" "maxLength" b)) v)
      (Breach.ofString b v) := by
  have hfound := finds_typed "string" (by decide)
    (finds_bounds _ "minLength" "maxLength" (by decide) b v)
  cases v <;> exact hfound

lemma finds_number (asItem : Bool) (b : Bounds) (v : Json) :
    Finds (check (ofTree (.number b)) v) (breaches asItem (.number b) v) := by
  have hfound := finds_typed "number" (by decide)
    (finds_bounds _ "minimum" "maximum" (by decide) b v)
  unfold ofTree
  cases v <;> (unfold breaches; exact hfound)

lemma finds_boolean (asItem : Bool) (v : Json) :
    Finds (check (ofTree .boolean) v) (breaches asItem .boolean v) := by
  have hfound := finds_typed "boolean" (by decide) (finds_part_nil _ v)
  unfold ofTree
  cases v <;> (unfold breaches; exact hfound)

lemma finds_enumeration (asItem : Bool) (values : List String) (v : Json) :
    Finds (check (ofTree (.enum values)) v) (breaches asItem (.enum values) v) := by
  cases values with
  | nil =>
    have hfound := finds_typed "string" (by decide) (finds_part_nil _ v)
    unfold ofTree
    cases v <;> (unfold breaches; exact hfound)
  | cons value rest =>
    have hfound := finds_typed "string" (by decide) (finds_enum _ (value :: rest) v)
    unfold ofTree
    cases v <;> (unfold breaches; exact hfound)

/-- An array schema finds the bounds that are not kept, and what it finds in the items. -/
lemma finds_array {inner : List (String × Json)} {itemBreaches : Json → List Breach}
    (h : ∀ v, Finds (check (.obj inner) v) (itemBreaches v)) (b : Bounds) (v : Json) :
    Finds
      (check (typed "array" (("items", .obj inner) :: boundMembers "minItems" "maxItems" b)) v)
      (match v with
        | .arr items => Breach.ofBounds "minItems" "maxItems" b (.int items.length) ++
            Breach.ofItems itemBreaches items
        | _ => [([], "type")]) := by
  have hbounds := finds_bounds
    (keywordsOf (("type", .str "array") :: ("items", .obj inner) ::
      boundMembers "minItems" "maxItems" b)) "minItems" "maxItems" (by decide) b v
  cases v with
  | arr items =>
    have hitems := finds_part_append (finds_items _ h items) hbounds
    refine (finds_typed "array" (by decide) hitems).of_perm ?_
    show (Breach.ofItems _ items ++ Breach.ofBounds _ _ b _).Perm _
    exact List.perm_append_comm
  | _ =>
    exact finds_typed "array" (by decide) (finds_part_append (finds_items_nothing _ rfl) hbounds)

/-- The keywords of an object schema find nothing in what is no object. -/
lemma finds_names_nothing (keywords : List Keyword) {v : Json} (h : hasType "object" v = false)
    (schemas : List (String × Json)) (names : List String) :
    Finds (part keywords (("properties", .obj schemas) ::
      (if names.isEmpty then [] else [("required", .arr (names.map .str))]) ++
      [("additionalProperties", .bool false)]) v) [] := by
  have hsingle : ∀ name value, (name, value) ∈ [("properties", .obj schemas),
      ("required", .arr (names.map .str)), ("additionalProperties", .bool false)] →
      Finds (part keywords [(name, value)] v) [] := by
    intro name value hmem
    simp only [List.mem_cons, Prod.mk.injEq, List.not_mem_nil, or_false] at hmem
    rcases hmem with ⟨rfl, rfl⟩ | ⟨rfl, rfl⟩ | ⟨rfl, rfl⟩ <;>
      refine finds_part_single (by simp only [keywordsOf]; rfl) ?_ <;>
      cases v <;> first | exact .nothing | exact absurd h (by simp [hasType])
  have hrequired : Finds (part keywords
      (if names.isEmpty then [] else [("required", .arr (names.map .str))]) v) [] := by
    split
    · exact finds_part_nil _ _
    · exact hsingle _ _ (by simp)
  have hproperties := hsingle "properties" (.obj schemas) (by simp)
  have hclosed := hsingle "additionalProperties" (.bool false) (by simp)
  exact finds_part_append hproperties (finds_part_append hrequired hclosed)

/-- An object schema finds the names that are missing or too many, and what it finds in the
properties. -/
lemma finds_object {properties : List (String × TypeTree)} {schemas : List (String × Json)}
    {required : List String} (h : Matched (FindsBreaches false) properties schemas)
    (nodup : (Entries.names properties).Nodup) (requiredNodup : required.Nodup)
    (defined : ∀ name ∈ required, name ∈ Entries.names properties) (asItem : Bool) (v : Json) :
    Finds (check (objectSchema schemas required) v)
      (breaches asItem (.object properties required) v) := by
  unfold objectSchema
  cases v with
  | obj members =>
    -- the schema requires the same names, in the order of the properties
    have hperm : ((Entries.names schemas).filter (required.contains ·)).Perm required := by
      rw [List.perm_ext_iff_of_nodup (by rw [h.names]; exact nodup.filter _) requiredNodup]
      intro name
      rw [List.mem_filter, h.names, List.contains_iff_mem]
      exact ⟨And.right, fun hname => ⟨defined name hname, hname⟩⟩
    generalize (Entries.names schemas).filter (required.contains ·) = names at hperm
    have hrequired : ∀ keywords, Finds (part keywords
        (if names.isEmpty then [] else [("required", .arr (names.map .str))]) (.obj members))
        ((names.filter fun name => !Entries.has name members).map fun _ => ([], "required")) := by
      intro keywords
      cases names with
      | nil => exact finds_part_nil _ _
      | cons name rest => exact finds_required _ (name :: rest) members
    have hadditional := finds_additional (keywordsOf
      (("type", .str "object") :: ("properties", .obj schemas) ::
        (if names.isEmpty then [] else [("required", .arr (names.map .str))]) ++
        [("additionalProperties", .bool false)])) schemas (by rw [get?_keywordsOf]; rfl)
      (by rw [get?_keywordsOf]; split <;> rfl) members
    have hall := finds_typed "object" (by decide)
      (finds_part_append (finds_properties _ h members)
        (finds_part_append (hrequired _) hadditional))
    refine hall.of_perm ?_
    unfold breaches
    show (propertyBreaches properties members ++ _).Perm _
    refine List.perm_append_comm.trans (List.Perm.append_right _ ?_)
    unfold Breach.ofNames
    rw [h.names]
    exact List.Perm.append_right _ ((hperm.filter _).map _)
  | _ =>
    unfold breaches
    exact finds_typed "object" (by decide) (finds_names_nothing _ rfl schemas _)

/-! ## Closed trees -/

section

variable {asItem : Bool} {items closed : TypeTree}

lemma findsBreaches_string (b : Bounds) :
    FindsBreaches asItem (.string b) (ofTree (.string b)) := by
  unfold ofTree
  refine ⟨⟨_, rfl⟩, fun v => ?_⟩
  unfold breaches
  exact finds_string b v

lemma findsBreaches_number (b : Bounds) :
    FindsBreaches asItem (.number b) (ofTree (.number b)) := by
  refine ⟨?_, finds_number asItem b⟩
  unfold ofTree
  exact ⟨_, rfl⟩

lemma findsBreaches_boolean : FindsBreaches asItem .boolean (ofTree .boolean) := by
  refine ⟨?_, finds_boolean asItem⟩
  unfold ofTree
  exact ⟨_, rfl⟩

lemma findsBreaches_enum (values : List String) :
    FindsBreaches asItem (.enum values) (ofTree (.enum values)) := by
  refine ⟨?_, finds_enumeration asItem values⟩
  cases values <;> (unfold ofTree; exact ⟨_, rfl⟩)

lemma findsBreaches_array (h : FindsBreaches true items (ofTree closed)) (b : Bounds) :
    FindsBreaches asItem (.array (some items) b) (ofTree (.array (some closed) b)) := by
  obtain ⟨⟨inner, hinner⟩, hfinds⟩ := h
  unfold ofTree
  rw [hinner] at hfinds ⊢
  refine ⟨⟨_, rfl⟩, fun v => ?_⟩
  have hfound := finds_array hfinds b v
  unfold breaches
  cases v <;> exact hfound

/-- Where no items are stated, these are strings. -/
lemma findsBreaches_itemless (b : Bounds) :
    FindsBreaches asItem (.array none b) (ofTree (.array (some (.string {})) b)) := by
  unfold ofTree ofTree
  refine ⟨⟨_, rfl⟩, fun v => ?_⟩
  have hfound := finds_array (finds_string {}) b v
  unfold breaches
  cases v <;> exact hfound

/-- A fragment that is not understood is broken as an object without properties. -/
lemma breaches_unknown (v : Json) : breaches false .unknown v = breaches false .empty v := by
  unfold TypeTree.empty breaches
  cases v with
  | obj members => cases members <;> rfl
  | _ => rfl

/-- And as an item it is broken as a string. -/
lemma findsBreaches_unknown (asItem : Bool) :
    FindsBreaches asItem .unknown (ofTree (if asItem then .string {} else .empty)) := by
  cases asItem with
  | true =>
    rw [if_pos rfl]
    unfold ofTree
    refine ⟨⟨_, rfl⟩, fun v => ?_⟩
    unfold breaches
    exact finds_string {} v
  | false =>
    rw [if_neg Bool.false_ne_true]
    unfold TypeTree.empty ofTree ofProperties
    refine ⟨⟨_, rfl⟩, fun v => ?_⟩
    rw [breaches_unknown]
    exact finds_object .nil List.nodup_nil List.nodup_nil (by simp) false v

end

/-- Closing a proper tree succeeds, and the schema of the closed tree finds its breaches. -/
theorem finds_of_close {tree : TypeTree} (h : tree.Proper) (asItem : Bool) :
    ∃ closed, close asItem tree = .ok closed ∧ FindsBreaches asItem tree (ofTree closed) := by
  -- one lemma for each construct, with what its parts find by the induction
  induction h generalizing asItem with
  | object nodup requiredNodup defined h ih =>
    obtain ⟨closed, hclosed, hmatched⟩ := exists_closeProperties fun p hp => ih p hp false
    refine ⟨_, close_object defined hclosed asItem, ?_⟩
    unfold ofTree
    exact ⟨⟨_, rfl⟩, finds_object hmatched nodup requiredNodup defined asItem⟩
  | array b hitems ih =>
    obtain ⟨closed, hclosed, hfinds⟩ := ih true
    exact ⟨_, close_array hclosed asItem b, findsBreaches_array hfinds b⟩
  | itemless b => exact ⟨_, close_itemless asItem b, findsBreaches_itemless b⟩
  | string b => exact ⟨_, close_of_isLeaf (.string b) asItem, findsBreaches_string b⟩
  | number b => exact ⟨_, close_of_isLeaf (.number b) asItem, findsBreaches_number b⟩
  | boolean => exact ⟨_, close_of_isLeaf .boolean asItem, findsBreaches_boolean⟩
  | enum values => exact ⟨_, close_of_isLeaf (.enum values) asItem, findsBreaches_enum values⟩
  | unknown => exact ⟨_, close_unknown asItem, findsBreaches_unknown asItem⟩

lemma proper_fallback : TypeTree.fallback.Proper := by
  refine .object (by decide) (by decide) (by decide) ?_
  intro p hp
  simp only [List.mem_cons, List.not_mem_nil, or_false] at hp
  rcases hp with rfl | rfl <;> exact .string _

/-- A proper tree has a document, which finds in every value the breaches of the tree. -/
theorem finds_of_ofRoot {tree : TypeTree} (h : tree.Proper) :
    ∃ document, ofRoot tree = .ok document ∧
      ∀ v, Finds (check document v) (rootBreaches tree v) := by
  by_cases hunknown : tree = .unknown
  · obtain ⟨closed, hclosed, -, hfinds⟩ := finds_of_close proper_fallback false
    have hfallback : close false TypeTree.fallback = .ok TypeTree.fallback := rfl
    rw [hunknown]
    refine ⟨Document.fallback, rfl, fun v => ?_⟩
    rw [hfallback] at hclosed
    rw [← Except.ok.inj hclosed] at hfinds
    exact hfinds v
  · obtain ⟨closed, hclosed, -, hfinds⟩ := finds_of_close h false
    refine ⟨ofTree closed, ?_, fun v => ?_⟩
    · rw [ofRoot_of_ne_unknown hunknown, hclosed]
      rfl
    · have hroot : rootBreaches tree v = breaches false tree v := by
        unfold rootBreaches
        split
        · exact absurd rfl hunknown
        · rfl
      rw [hroot]
      exact hfinds v

end SlideContract.Document
