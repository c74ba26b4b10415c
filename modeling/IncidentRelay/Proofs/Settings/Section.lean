import IncidentRelay.Proofs.Settings.Document
import IncidentRelay.Settings.Codec
import Mathlib.Data.List.Nodup
import Mathlib.Data.List.Pairwise

/-!
# Sections and their settings

A section is shown as an object with a member for each of its fields. What is read from a document
and shown again has the document's value at every setting that the document has, and the default at
every other one. This holds of each kind of setting, and of a section if it holds of its fields and
no field has an influence on another.

## Main statements

* `Codec.lawful_of_exact`: a setting whose values are kept as they are read is lawful.
* `record_lawful`: a section of lawful fields that are apart is lawful.
-/

namespace IncidentRelay

open Json (Fields Value)
open Settings (Fits Tidy at? at?_object at?_of_not_object)
open Settings.Layer (merge mergeFields)

variable {α β : Type}

/-! ### What is read and shown -/

/-- How something is shown, where `d` is the default and `reads` what it can be read from. -/
structure Lawful (encode : α → Value) (d : α) (reads : Value → α → Prop) : Prop where
  /-- Objects are shown in the same places as those of the default. -/
  object : ∀ a path fs, at? (encode a) path = some (.object fs) →
    ∃ fs, at? (encode d) path = some (.object fs)
  /-- Each setting of the default is shown. -/
  leaf : ∀ a path u, at? (encode d) path = some u → u.asObject? = none →
    ∃ w, at? (encode a) path = some w ∧ w.asObject? = none
  /-- Each setting that is shown was read, or is that of the default. -/
  read : ∀ v a, reads v a → Tidy v → Fits v (encode d) →
    ∀ path w, at? (encode a) path = some w → w.asObject? = none →
      (at? v path).or (at? (encode d) path) = some w
  /-- Where the default shows an object without members, all members are read. -/
  free : ∀ v a, reads v a → Tidy v → Fits v (encode d) →
    ∀ path k u, at? (encode d) path = some (.object []) → at? v (path ++ [k]) = some u →
      at? (encode a) (path ++ [k]) = some u
  /-- The default can be read from where it is shown. -/
  own : ∃ a, reads (encode d) a
  /-- A document can be read over the default if it can be read alone, and only then. -/
  above : ∀ v, Tidy v → Fits v (encode d) →
    ((∃ a, reads (merge (encode d) v) a) ↔ ∃ a, reads v a)
  tidy : Tidy (encode d)

/-- Whether values are read and shown one by one. -/
def Codec.Lawful (c : Codec α) (d : α) : Prop :=
  IncidentRelay.Lawful c.encode d fun v a => c.decode v = .ok a

/-- Whether a field's values are read and shown one by one. -/
structure Field.Lawful (f : Field α) (d : α) : Prop
    extends IncidentRelay.Lawful f.encode d fun v a => ∃ b, f.assign v b = .ok a where
  /-- Whether a value can be assigned does not depend on what was there before. -/
  uniform : ∀ v a b, f.assign v a = .ok b → ∀ a, ∃ b, f.assign v a = .ok b

/-- A path into a leaf is empty. -/
theorem at?_leaf {v : Value} (h : v.asObject? = none) {path : List String} {w : Value}
    (hat : at? v path = some w) : path = [] ∧ w = v := by
  cases path with
  | nil => exact ⟨rfl, (Option.some.inj hat).symm⟩
  | cons k path => rw [at?_of_not_object h] at hat; exact nomatch hat

/-- A setting whose values are kept as they are read. -/
theorem Codec.lawful_of_exact {c : Codec α} {d : α}
    (hexact : ∀ v a, c.decode v = .ok a → c.encode a = v)
    (hleaf : ∀ a, (c.encode a).asObject? = none) (hown : ∃ a, c.decode (c.encode d) = .ok a) :
    c.Lawful d where
  object a path fs hat := by
    have hobject := hleaf a
    rw [← (at?_leaf hobject hat).2] at hobject
    exact nomatch hobject
  leaf a path u hat _ := by
    obtain ⟨rfl, -⟩ := at?_leaf (hleaf d) hat
    exact ⟨_, rfl, hleaf a⟩
  read v a hread _ _ path w hat _ := by
    rw [hexact v a hread] at hat
    rw [hat]
    rfl
  free v a _ _ _ path k u hat _ := by
    have hobject := hleaf d
    rw [← (at?_leaf hobject hat).2] at hobject
    exact nomatch hobject
  own := hown
  above v _ _ := by rw [Settings.merge_of_leaf (hleaf d)]
  tidy := .leaf (hleaf d)

/-! ### The kinds of settings -/

/-- What is read from each item of a list is all that was in it. -/
theorem map_of_mapM_ok {ε : Type} {read : α → Except ε β} {write : β → α}
    (hread : ∀ a b, read a = .ok b → write b = a) {as : List α} {bs : List β}
    (h : as.mapM read = .ok bs) : bs.map write = as := by
  induction as generalizing bs with
  | nil =>
      cases h
      rfl
  | cons a rest ih =>
      rw [List.mapM_cons] at h
      cases ha : read a with
      | error e => rw [ha] at h; exact nomatch h
      | ok b =>
          cases hrest : rest.mapM read with
          | error e => rw [ha, hrest] at h; exact nomatch h
          | ok others =>
              rw [ha, hrest] at h
              cases h
              rw [List.map_cons, hread a b ha, ih hrest]

/-- Everything in a list can be read if each part of it can. -/
theorem mapM_ok_iff {ε : Type} {read : α → Except ε β} {as : List α} :
    (∃ bs, as.mapM read = .ok bs) ↔ ∀ a ∈ as, ∃ b, read a = .ok b := by
  induction as with
  | nil => exact ⟨fun _ => nofun, fun _ => ⟨[], rfl⟩⟩
  | cons a rest ih =>
      rw [List.forall_mem_cons, ← ih, List.mapM_cons]
      cases read a with
      | error e => exact ⟨fun ⟨_, h⟩ => (nomatch h), fun ⟨⟨_, h⟩, _⟩ => (nomatch h)⟩
      | ok b =>
          cases rest.mapM read with
          | error e => exact ⟨fun ⟨_, h⟩ => (nomatch h), fun ⟨_, _, h⟩ => (nomatch h)⟩
          | ok bs => exact ⟨fun _ => ⟨⟨b, rfl⟩, bs, rfl⟩, fun _ => ⟨_, rfl⟩⟩

namespace Codec

/-- Texts are read as they were written. -/
theorem string_lawful (d : String) : string.Lawful d := by
  refine lawful_of_exact (fun v a h => ?_) (fun _ => rfl) ⟨d, rfl⟩
  cases v <;> cases h
  rfl

/-- Truth values are read as they were written. -/
theorem flag_lawful (d : Bool) : flag.Lawful d := by
  refine lawful_of_exact (fun v a h => ?_) (fun _ => rfl) ⟨d, rfl⟩
  cases v <;> cases h
  rfl

/-- An integer that is read is the one that stands there, within its bounds. -/
theorem integer_exact {low high : Int} {v : Value} {i : Int}
    (h : (integer low high).decode v = .ok i) : v = .int i ∧ low ≤ i := by
  unfold integer at h
  dsimp only at h
  split at h
  · split at h
    · next hbounds => cases h; exact ⟨rfl, hbounds.1⟩
    · exact nomatch h
  · exact nomatch h

/-- An integer within its bounds is read back. -/
theorem integer_own {low high d : Int} (hlow : low ≤ d) (hhigh : d ≤ high) :
    (integer low high).decode (.int d) = .ok d :=
  if_pos ⟨hlow, hhigh⟩

/-- Integers within their bounds are read as they were written. -/
theorem integer_lawful {low high d : Int} (hlow : low ≤ d) (hhigh : d ≤ high) :
    (integer low high).Lawful d :=
  lawful_of_exact (fun _ _ h => (integer_exact h).1.symm) (fun _ => rfl)
    ⟨d, integer_own hlow hhigh⟩

/-- Natural numbers up to a bound are read as they were written. -/
theorem natural_lawful {high d : Nat} (hd : d ≤ high) : (natural high).Lawful d := by
  have hown : (natural high).decode (.nat d) = .ok d := by
    have hint : (integer 0 high).decode (.nat d) = .ok (d : Int) :=
      integer_own (Int.natCast_nonneg d) (Int.ofNat_le.mpr hd)
    simp only [natural, hint, Except.map, Int.toNat_natCast]
  refine lawful_of_exact (fun v a h => ?_) (fun _ => rfl) ⟨d, hown⟩
  cases hi : (integer 0 high).decode v with
  | error e => simp [natural, hi, Except.map] at h
  | ok i =>
      obtain ⟨rfl, hlow⟩ := integer_exact hi
      simp only [natural, hi, Except.map, Except.ok.injEq] at h
      subst h
      simp [natural, Value.nat, Value.int, Int.toNat_of_nonneg hlow]

/-- Texts that may be missing are read as they were written. -/
theorem optionalText_lawful (d : Option String) : optionalText.Lawful d := by
  refine lawful_of_exact (fun v a h => ?_) (fun a => by cases a <;> rfl)
    ⟨d, by cases d <;> rfl⟩
  cases v <;> cases h <;> rfl

/-- A choice reads back the name of what it wrote. -/
theorem choice_own [DecidableEq α] {first : String × α} {more : List (String × α)} (d : α) :
    ∃ a, (choice first more).decode ((choice first more).encode d) = .ok a := by
  have hmem : ((first :: more).find? (·.2 = d)).getD first ∈ first :: more := by
    cases hfind : (first :: more).find? (·.2 = d) with
    | none => exact List.mem_cons_self
    | some e => exact List.mem_of_find?_eq_some hfind
  simp only [choice]
  split
  · exact ⟨_, rfl⟩
  · next hnone =>
      have hne := List.lookup_eq_none_iff.mp hnone _ hmem
      simp at hne

/-- A choice between names is kept if each value has one name. -/
theorem choice_lawful [DecidableEq α] {first : String × α} {more : List (String × α)}
    (hvalues : ((first :: more).map (·.2)).Nodup) (d : α) : (choice first more).Lawful d := by
  refine lawful_of_exact (fun v a h => ?_) (fun _ => rfl) (choice_own d)
  cases v with
  | string s =>
      simp only [choice] at h
      split at h
      · next b hlookup =>
          cases h
          obtain ⟨before, after, hsplit, -⟩ := List.lookup_eq_some_iff.mp hlookup
          have hmem : (s, a) ∈ first :: more := by simp [hsplit]
          refine congrArg Value.string ?_
          cases hfind : (first :: more).find? (·.2 = a) with
          | none => exact absurd (by simp) (List.find?_eq_none.mp hfind (s, a) hmem)
          | some e =>
              have hvalue : e.2 = a := by simpa using List.find?_some hfind
              rw [List.inj_on_of_nodup_map hvalues (List.mem_of_find?_eq_some hfind) hmem hvalue]
              rfl
      · exact nomatch h
  | null | bool | number | array | object => exact nomatch h

/-- A table of texts is the one that stands there. -/
theorem texts_exact {v : Value} {t : List (String × String)} (h : texts.decode v = .ok t) :
    texts.encode t = v := by
  cases v with
  | object fs =>
      refine congrArg Value.object (map_of_mapM_ok (fun e t h => ?_) h)
      obtain ⟨k, v⟩ := e
      cases v <;> cases h
      rfl
  | null | bool | number | string | array => exact nomatch h

/-- Tables of texts are read as they were written. -/
theorem texts_lawful : texts.Lawful [] where
  object a path fs hat := by
    cases path with
    | nil => exact ⟨_, rfl⟩
    | cons k path =>
        obtain ⟨v, hv, hat⟩ := Option.bind_eq_some_iff.mp hat
        obtain ⟨e, -, heq⟩ := List.mem_map.mp (Table.mem_of_get? hv)
        cases heq
        exact nomatch (at?_leaf (v := .string e.2) rfl hat).2
  leaf a path u hat hleaf := by
    cases path with
    | nil => cases hat; exact nomatch hleaf
    | cons k path => exact nomatch hat
  read v a hread _ _ path w hat _ := by
    rw [texts_exact hread] at hat
    rw [hat]
    rfl
  free v a hread _ _ path k u hat hu := by
    cases path with
    | nil => rw [texts_exact hread]; exact hu
    | cons name path => exact nomatch hat
  own := ⟨[], rfl⟩
  above v htidy hfits := by
    obtain ⟨fs, rfl⟩ := hfits [] [] v rfl rfl
    change (∃ a, texts.decode (merge (.object []) (.object fs)) = .ok a) ↔ _
    rw [Settings.merge_objects]
    simp only [texts, mapM_ok_iff, Settings.mem_mergeFields_nil htidy]
  tidy := Settings.tidy_empty

end Codec

/-! ### Fields -/

/-- What a field assigns is what its value reads. -/
theorem Field.decode_of_assign {name : String} {c : Codec β} {get : α → β} {set : β → α → α}
    (hset : ∀ x a, get (set x a) = x) {v : Value} {a : α}
    (h : ∃ b, (Field.of name c get set).assign v b = .ok a) : c.decode v = .ok (get a) := by
  obtain ⟨b, hassign⟩ := h
  simp only [Field.of] at hassign
  cases hx : c.decode v with
  | error e => rw [hx] at hassign; exact nomatch hassign
  | ok x =>
      rw [hx] at hassign
      cases hassign
      rw [hset]

/-- Whether a field can be assigned depends on its value alone. -/
theorem Field.assign_of_iff {name : String} {c : Codec β} {get : α → β} {set : β → α → α}
    (v : Value) (d : α) :
    (∃ b a, (Field.of name c get set).assign v a = .ok b) ↔ ∃ x, c.decode v = .ok x := by
  simp only [Field.of]
  cases c.decode v with
  | error e => exact ⟨fun ⟨_, _, h⟩ => (nomatch h), fun ⟨_, h⟩ => (nomatch h)⟩
  | ok x => exact ⟨fun _ => ⟨x, rfl⟩, fun _ => ⟨_, d, rfl⟩⟩

/-- A field is lawful if its kind of setting is, and if it has the value that it is given. -/
theorem Field.lawful_of {name : String} {c : Codec β} {get : α → β} {set : β → α → α} {d : α}
    (hc : c.Lawful (get d)) (hset : ∀ x a, get (set x a) = x) :
    (Field.of name c get set).Lawful d where
  object a := hc.object (get a)
  leaf a := hc.leaf (get a)
  read v a hread := hc.read v (get a) (decode_of_assign hset hread)
  free v a hread := hc.free v (get a) (decode_of_assign hset hread)
  own := (assign_of_iff _ d).mpr hc.own
  above v htidy hfits :=
    (assign_of_iff _ d).trans ((hc.above v htidy hfits).trans (assign_of_iff _ d).symm)
  uniform v a b hassign a' := by
    obtain ⟨x, hx⟩ := (assign_of_iff v a).mp ⟨b, a, hassign⟩
    exact ⟨set x a', by simp only [Field.of, hx]⟩
  tidy := hc.tidy

/-- Fields of different names, neither of which changes the value of the other. -/
structure Field.Apart (f g : Field α) : Prop where
  names : f.name ≠ g.name
  left : ∀ v a b, f.assign v a = .ok b → g.encode b = g.encode a
  right : ∀ v a b, g.assign v a = .ok b → f.encode b = f.encode a

instance : Std.Symm (Field.Apart : Field α → Field α → Prop) where
  symm _ _ h := ⟨h.names.symm, h.right, h.left⟩

/-- A field that an encoding does not show can be assigned without a trace. -/
theorem Field.assign_of_keeps {name : String} {c : Codec β} {get : α → β} {set : β → α → α}
    {encode : α → Value} (h : ∀ x a, encode (set x a) = encode a) {v : Value} {a b : α}
    (hassign : (Field.of name c get set).assign v a = .ok b) : encode b = encode a := by
  simp only [Field.of] at hassign
  split at hassign
  · cases hassign
    exact h _ a
  · exact nomatch hassign

/-- Fields of two names are apart if neither setter touches what the other one gets. -/
theorem Field.apart_of {γ : Type} {name name' : String} {c : Codec β} {c' : Codec γ} {get : α → β}
    {get' : α → γ} {set : β → α → α} {set' : γ → α → α} (hname : name ≠ name')
    (h : ∀ x a, get' (set x a) = get' a) (h' : ∀ x a, get (set' x a) = get a) :
    (Field.of name c get set).Apart (Field.of name' c' get' set') where
  names := hname
  left v a b hassign := by
    have hkeep : ∀ x a, c'.encode (get' (set x a)) = c'.encode (get' a) :=
      fun x a => congrArg c'.encode (h x a)
    exact assign_of_keeps hkeep hassign
  right v a b hassign := by
    have hkeep : ∀ x a, c.encode (get (set' x a)) = c.encode (get a) :=
      fun x a => congrArg c.encode (h' x a)
    exact assign_of_keeps hkeep hassign

/-! ### Sections -/

section Sections

variable {fields : List (Field α)}

/-- A section is shown in order. -/
theorem tidy_record {base : α} (hfields : ∀ f ∈ fields, f.Lawful base) (complete : Bool) :
    Tidy ((Codec.record fields base complete).encode base) := by
  refine .object (Table.ordered_ofList _) fun e he => ?_
  obtain ⟨f, hf, rfl⟩ := List.mem_map.mp (Table.mem_ofList he)
  exact (hfields f hf).tidy

/-- A section shows each of its fields under its name. -/
theorem get?_shown (hnames : fields.Pairwise (·.name ≠ ·.name)) {f : Field α} (hf : f ∈ fields)
    (a : α) : Table.get? (Table.ofList (fields.map fun f => (f.name, f.encode a))) f.name =
      some (f.encode a) := by
  have hentries : (fields.map fun f => (f.name, f.encode a)).Pairwise (·.1 ≠ ·.1) :=
    List.pairwise_map.mpr hnames
  rw [Table.get?_ofList hentries]
  exact Table.get?_of_mem hentries (List.mem_map.mpr ⟨f, hf, rfl⟩)

/-- The way into a section goes on in the field of the name. -/
theorem at?_record {base : α} {complete : Bool} (hnames : fields.Pairwise (·.name ≠ ·.name))
    {k : String} {f : Field α} (hfind : fields.find? (·.name = k) = some f) {a : α} {w : Value}
    (hw : f.encode a = w) (path : List String) :
    at? ((Codec.record fields base complete).encode a) (k :: path) = at? w path := by
  obtain rfl : f.name = k := by simpa using List.find?_some hfind
  rw [Codec.record, at?_object, get?_shown hnames (List.mem_of_find?_eq_some hfind), ← hw]
  rfl

variable (hapart : fields.Pairwise Field.Apart)

include hapart

/-- Fields that are apart have different names. -/
theorem names_ne_of_apart : fields.Pairwise (·.name ≠ ·.name) := hapart.imp fun h => h.names

/-- Two fields of a record with different names are apart. -/
theorem apart_of_names {f g : Field α} (hf : f ∈ fields) (hg : g ∈ fields) (h : f.name ≠ g.name) :
    f.Apart g :=
  hapart.forall hf hg fun heq => h (heq ▸ rfl)

/-- Two fields of a record with one name are the same. -/
theorem eq_of_name {f g : Field α} (hf : f ∈ fields) (hg : g ∈ fields) (h : f.name = g.name) :
    f = g := by
  by_contra hne
  exact (hapart.forall hf hg hne).names h

/-- A section shows each of its fields under its name, and nothing else. -/
theorem at?_encode {base : α} {complete : Bool} (a : α) (k : String) (path : List String)
    (w : Value) :
    at? ((Codec.record fields base complete).encode a) (k :: path) = some w ↔
      ∃ f ∈ fields, f.name = k ∧ at? (f.encode a) path = some w := by
  simp only [Codec.record, at?_object, Option.bind_eq_some_iff]
  constructor
  · rintro ⟨v, hv, hat⟩
    obtain ⟨f, hf, heq⟩ := List.mem_map.mp (Table.mem_ofList (Table.mem_of_get? hv))
    cases heq
    exact ⟨f, hf, rfl, hat⟩
  · rintro ⟨f, hf, rfl, hat⟩
    exact ⟨_, get?_shown (names_ne_of_apart hapart) hf a, hat⟩

/-- After the members of a section are read, a field shows what was read from the member of its
name, or what it showed before. -/
theorem encode_of_assignMembers {fs : Fields} (hfs : fs.Pairwise (·.1 ≠ ·.1)) {base a : α}
    (h : Codec.assignMembers fields base fs = .ok a) {f : Field α} (hf : f ∈ fields) :
    match Table.get? fs f.name with
    | some v => ∃ b b', f.assign v b = .ok b' ∧ f.encode a = f.encode b'
    | none => f.encode a = f.encode base := by
  induction fs generalizing base with
  | nil =>
      cases h
      rfl
  | cons e rest ih =>
      obtain ⟨k, v⟩ := e
      have hrest := (List.pairwise_cons.mp hfs).2
      unfold Codec.assignMembers at h
      split at h
      · next hfind =>
          have hk : k ≠ f.name := fun heq => by
            simpa [heq] using List.find?_eq_none.mp hfind f hf
          rw [Table.get?, if_neg hk]
          exact ih hrest h
      · next g hfind =>
          have hg : g ∈ fields := List.mem_of_find?_eq_some hfind
          have hname : g.name = k := by simpa using List.find?_some hfind
          split at h
          · next b hassign =>
              by_cases hk : k = f.name
              · obtain rfl := eq_of_name hapart hf hg (hk.symm.trans hname.symm)
                have hlater := ih hrest h
                rw [← hk, Table.get?_rest hfs] at hlater
                rw [Table.get?, if_pos hk]
                exact ⟨base, b, hassign, hlater⟩
              · have hkeep : f.encode b = f.encode base :=
                  (apart_of_names hapart hg hf (hname ▸ hk)).left v base b hassign
                rw [Table.get?, if_neg hk, ← hkeep]
                exact ih hrest h
          · exact nomatch h

/-- What fits into a section fits into its fields. -/
theorem fits_below {base : α} {complete : Bool} {fs : Fields}
    (h : Fits (.object fs) ((Codec.record fields base complete).encode base))
    {f : Field α} (hf : f ∈ fields) {v : Value} (hget : Table.get? fs f.name = some v) :
    Fits v (f.encode base) := by
  intro path gs u hgs hu
  refine h (f.name :: path) gs u ?_ ?_
  · exact (at?_encode hapart base f.name path _).mpr ⟨f, hf, rfl, hgs⟩
  · rw [at?_object, hget]
    exact hu

/-- What is read from a member of a section for the field of its name. -/
theorem exists_read {base a : α} {complete : Bool} {fs : Fields} (htidy : Tidy (.object fs))
    (hread : (Codec.record fields base complete).decode (.object fs) = .ok a) {f : Field α}
    (hf : f ∈ fields) {v : Value} (hget : Table.get? fs f.name = some v) :
    ∃ b, (∃ b', f.assign v b' = .ok b) ∧ f.encode a = f.encode b := by
  have hshown := encode_of_assignMembers hapart htidy.ordered.names_ne hread hf
  rw [hget] at hshown
  obtain ⟨b', b, hassign, hshown⟩ := hshown
  exact ⟨b, ⟨b', hassign⟩, hshown⟩

/-- The members of a section can be read if each is a value that its field can have. -/
theorem exists_assignMembers_iff {base : α} (hfields : ∀ f ∈ fields, f.Lawful base) {fs : Fields}
    (hfs : fs.Pairwise (·.1 ≠ ·.1)) (start : α) :
    (∃ a, Codec.assignMembers fields start fs = .ok a) ↔
      ∀ f ∈ fields, ∀ v, Table.get? fs f.name = some v → ∃ b a, f.assign v a = .ok b := by
  induction fs generalizing start with
  | nil => exact ⟨fun _ _ _ _ h => (nomatch h), fun _ => ⟨start, rfl⟩⟩
  | cons e rest ih =>
      obtain ⟨k, v⟩ := e
      have ih := ih (List.pairwise_cons.mp hfs).2
      unfold Codec.assignMembers
      split
      · next hfind =>
          rw [ih]
          refine forall₂_congr fun f hf => ?_
          have hk : k ≠ f.name := fun heq => by
            simpa [heq] using List.find?_eq_none.mp hfind f hf
          rw [Table.get?, if_neg hk]
      · next g hfind =>
          have hg : g ∈ fields := List.mem_of_find?_eq_some hfind
          have hname : g.name = k := by simpa using List.find?_some hfind
          constructor
          · intro h f hf u hu
            split at h
            · next b hassign =>
                by_cases hk : k = f.name
                · obtain rfl := eq_of_name hapart hf hg (hk.symm.trans hname.symm)
                  rw [Table.get?, if_pos hk] at hu
                  cases hu
                  exact ⟨b, start, hassign⟩
                · rw [Table.get?, if_neg hk] at hu
                  exact (ih b).mp h f hf u hu
            · exact nomatch h.choose_spec
          · intro h
            obtain ⟨b, a, hassign⟩ := h g hg v (by rw [Table.get?, if_pos hname.symm])
            -- The value was assigned to something else, but that makes no difference.
            obtain ⟨b', hstart⟩ := (hfields g hg).uniform v a b hassign start
            rw [hstart]
            refine (ih b').mpr fun f hf u hu => h f hf u ?_
            have hk : k ≠ f.name := by
              rintro rfl
              rw [Table.get?_rest hfs] at hu
              exact nomatch hu
            rw [Table.get?, if_neg hk]
            exact hu

/-- A section of lawful fields that are apart is lawful. -/
theorem record_lawful {base : α} (hfields : ∀ f ∈ fields, f.Lawful base) (hne : fields ≠ [])
    (complete : Bool) : (Codec.record fields base complete).Lawful base where
  object a path fs hat := by
    cases path with
    | nil => exact ⟨_, rfl⟩
    | cons k path =>
        obtain ⟨f, hf, hname, hat⟩ := (at?_encode hapart a k path _).mp hat
        obtain ⟨gs, hgs⟩ := (hfields f hf).object a path fs hat
        exact ⟨gs, (at?_encode hapart base k path _).mpr ⟨f, hf, hname, hgs⟩⟩
  leaf a path u hat hleaf := by
    cases path with
    | nil => cases hat; exact nomatch hleaf
    | cons k path =>
        obtain ⟨f, hf, hname, hat⟩ := (at?_encode hapart base k path _).mp hat
        obtain ⟨w, hw, hwleaf⟩ := (hfields f hf).leaf a path u hat hleaf
        exact ⟨w, (at?_encode hapart a k path _).mpr ⟨f, hf, hname, hw⟩, hwleaf⟩
  read v a hread htidy hfits path w hat hleaf := by
    cases path with
    | nil => cases hat; exact nomatch hleaf
    | cons k path =>
        obtain ⟨f, hf, rfl, hfield⟩ := (at?_encode hapart a k path _).mp hat
        obtain ⟨fs, rfl⟩ := hfits [] _ v rfl rfl
        rw [at?_object]
        cases hget : Table.get? fs f.name with
        | none =>
            have hshown := encode_of_assignMembers hapart htidy.ordered.names_ne hread hf
            rw [hget] at hshown
            rw [hshown] at hfield
            exact (at?_encode hapart base f.name path w).mpr ⟨f, hf, rfl, hfield⟩
        | some u =>
            obtain ⟨b, hassign, hshown⟩ := exists_read hapart htidy hread hf hget
            rw [hshown] at hfield
            have hread := (hfields f hf).read u b hassign (htidy.get? hget)
              (fits_below hapart hfits hf hget) path w hfield hleaf
            rw [Option.bind_some]
            cases hu : at? u path with
            | some x => rw [hu] at hread; exact hread
            | none =>
                rw [hu] at hread
                exact (at?_encode hapart base f.name path w).mpr ⟨f, hf, rfl, hread⟩
  free v a hread htidy hfits path k u hat hu := by
    cases path with
    | nil =>
        obtain ⟨f, rest, rfl⟩ := List.exists_cons_of_ne_nil hne
        have hshown : at? ((Codec.record (f :: rest) base complete).encode base) [f.name] =
            some (f.encode base) :=
          (at?_encode hapart base f.name [] _).mpr ⟨f, List.mem_cons_self, rfl, rfl⟩
        rw [Option.some.inj hat] at hshown
        exact nomatch hshown
    | cons name path =>
        obtain ⟨f, hf, rfl, hempty⟩ := (at?_encode hapart base name path _).mp hat
        obtain ⟨fs, rfl⟩ := hfits [] _ v rfl rfl
        obtain ⟨x, hget, hx⟩ := Option.bind_eq_some_iff.mp hu
        obtain ⟨b, hassign, hshown⟩ := exists_read hapart htidy hread hf hget
        refine (at?_encode hapart a f.name (path ++ [k]) u).mpr ⟨f, hf, rfl, ?_⟩
        rw [hshown]
        exact (hfields f hf).free x b hassign (htidy.get? hget)
          (fits_below hapart hfits hf hget) path k u hempty hx
  own := by
    refine (exists_assignMembers_iff hapart hfields (Table.ordered_ofList _).names_ne base).mpr ?_
    intro f hf v hget
    rw [get?_shown (names_ne_of_apart hapart) hf] at hget
    cases hget
    exact (hfields f hf).own
  above v htidy hfits := by
    obtain ⟨fs, rfl⟩ := hfits [] _ v rfl rfl
    have hordered := htidy.ordered
    have hmerged := htidy.merge (tidy_record hfields complete)
    simp only [Codec.record, Settings.merge_objects] at hmerged ⊢
    rw [exists_assignMembers_iff hapart hfields hmerged.ordered.names_ne,
      exists_assignMembers_iff hapart hfields hordered.names_ne]
    refine forall₂_congr fun f hf => ?_
    rw [Settings.get?_mergeFields hordered, get?_shown (names_ne_of_apart hapart) hf]
    cases hget : Table.get? fs f.name with
    | none =>
        refine ⟨fun _ _ h => (nomatch h), fun _ v hv => ?_⟩
        cases hv
        exact (hfields f hf).own
    | some u =>
        have habove := (hfields f hf).above u (htidy.get? hget) (fits_below hapart hfits hf hget)
        constructor
        · rintro h v hv
          cases hv
          exact habove.mp (h _ rfl)
        · rintro h v hv
          cases hv
          exact habove.mpr (h u rfl)
  tidy := tidy_record hfields complete

end Sections

end IncidentRelay
