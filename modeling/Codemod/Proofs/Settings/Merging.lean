import Codemod.Settings.Load
import Mathlib.Data.List.Basic
import Mathlib.Data.List.TakeDrop
import Mathlib.Data.List.TakeWhile

/-!
# What a layer of settings leaves in the tree

A layer gives values to paths of keys. After it came over a tree, there stands at a path what the
layer gives there, each value over the one before it and the first over what stood there before;
where the layer gives nothing, the tree is as it was. The name of an assignment may lead into
records by itself; it is then read as the records that it leads through.

- `given`, `Leads` — the values that a record gives to a path, and records all the way there
- `spelledOut?`, `spelled` — assignments with the records that their names lead through
- `Tree.at?` — what stands at a path of keys
- `Tree.at?_cover`, `Tree.at?_layer` — one value, and a layer
-/

namespace Codemod.Settings

variable {path keys rest : List String} {key name origin : String} {t : Tree} {v w : Json}
variable {fields more : List (String × Json)}

/-! ### What a record gives to a path -/

/-- The values that a record gives to what stands at a path of keys, from the first to the last. -/
def given : List String → Json → List Json
  | [], v => [v]
  | key :: rest, .object fields =>
    fields.flatMap fun (k, v) => if k = key then given rest v else []
  | _ :: _, _ => []

/-- On the way along a path of keys there are only records. -/
def Leads : List String → Json → Prop
  | [], _ => True
  | key :: rest, .object fields => ∀ f ∈ fields, f.1 = key → Leads rest f.2
  | _ :: _, _ => False

theorem Leads.exists_object (h : Leads (key :: rest) v) : ∃ fields, v = .object fields := by
  cases v with
  | object fields => exact ⟨fields, rfl⟩
  | _ => exact h.elim

theorem given_object_append :
    given (key :: rest) (.object (fields ++ more)) =
      given (key :: rest) (.object fields) ++ given (key :: rest) (.object more) :=
  List.flatMap_append

theorem leads_object_append : Leads (key :: rest) (.object (fields ++ more)) ↔
    Leads (key :: rest) (.object fields) ∧ Leads (key :: rest) (.object more) :=
  List.forall_mem_append

/-- Between the keys of a path there are records. -/
theorem Leads.of_given {inner : String} (h : Leads (key :: inner :: rest) v)
    (hw : w ∈ given [key] v) : ∃ fields, w = .object fields := by
  obtain ⟨fields, rfl⟩ := h.exists_object
  obtain ⟨⟨k, u⟩, hmem, hu⟩ := List.mem_flatMap.mp hw
  dsimp only at hu
  split at hu
  · next hk =>
    rw [given, List.mem_singleton] at hu
    rw [hu]
    exact (h (k, u) hmem hk).exists_object
  · cases hu

/-! ### Records along a path -/

/-- A value inside of records, one for each key. -/
def wrap : List String → Json → Json
  | [], v => v
  | key :: rest, v => .object [(key, wrap rest v)]

@[simp] theorem given_wrap_self (path : List String) (v : Json) :
    given path (wrap path v) = [v] := by
  induction path with
  | nil => rfl
  | cons key rest ih => simp [wrap, given, ih]

/-- Nothing is given to a path that goes another way. -/
theorem given_wrap_of_not_prefix (h : ¬path <+: keys) (h' : ¬keys <+: path) (v : Json) :
    given keys (wrap path v) = [] := by
  induction path generalizing keys with
  | nil => exact absurd List.nil_prefix h
  | cons key rest ih =>
    cases keys with
    | nil => exact absurd List.nil_prefix h'
    | cons k ks =>
      simp only [wrap, given, List.flatMap_singleton]
      split
      · next hk =>
        subst hk
        rw [List.prefix_cons_inj] at h h'
        exact ih h h'
      · rfl

/-- There are records on the way to every path that is not inside of the value. -/
theorem leads_wrap (h : path <+: keys → path = keys) (v : Json) : Leads keys (wrap path v) := by
  induction path generalizing keys with
  | nil =>
    rw [← h List.nil_prefix]
    trivial
  | cons key rest ih =>
    cases keys with
    | nil => trivial
    | cons k ks =>
      simp only [wrap, Leads, List.mem_singleton, forall_eq]
      rintro rfl
      exact ih fun hprefix => (List.cons.inj (h (List.prefix_cons_inj _ |>.mpr hprefix))).2

/-! ### Assignments spelled out -/

/-- The value inside of the records that the steps of a path lead through; none when one of the
steps is an index. -/
def nested? : List Step → Json → Option Json
  | [], v => some v
  | .key name :: steps, v => (nested? steps v).map fun w => .object [(name, w)]
  | .index _ :: _, _ => none

/-- The field that an assignment stands for: the name is a path, and the value stands inside of the
records on the way. -/
def spelledOut? (assignment : String × Json) : Option (String × Json) :=
  let place := Place.read assignment.1
  (nested? place.steps assignment.2).map fun w => (place.first, w)

/-- The fields that assignments stand for. -/
def spelled (assignments : List (String × Json)) : List (String × Json) :=
  assignments.filterMap spelledOut?

theorem nested?_key (keys : List String) (v : Json) :
    nested? (keys.map .key) v = some (wrap keys v) := by
  induction keys with
  | nil => rfl
  | cons key rest ih => simp [nested?, wrap, ih]

/-- A name without dots and brackets is a key. -/
theorem Place.read_eq_self (h : name.toList.all isKeyChar = true) :
    Place.read name = ⟨name, []⟩ := by
  have hall : ∀ c ∈ name.toList, isKeyChar c = true := List.all_eq_true.mp h
  have hspan : name.toList.span isKeyChar = (name.toList, []) := by
    rw [List.span_eq_takeWhile_dropWhile, List.takeWhile_eq_self_iff.mpr hall,
      List.dropWhile_eq_nil_iff.mpr hall]
  unfold Place.read
  rw [hspan]
  split
  · rfl
  · next first rest _ heq =>
    cases heq
    simp [steps?]

/-- An assignment to a key is spelled out as it is. -/
theorem spelledOut?_eq_self {f : String × Json} (h : f.1.toList.all Place.isKeyChar = true) :
    spelledOut? f = some f := by
  rw [spelledOut?, Place.read_eq_self h]
  rfl

theorem spelled_eq_self (h : ∀ f ∈ fields, f.1.toList.all Place.isKeyChar = true) :
    spelled fields = fields := by
  rw [spelled, List.filterMap_congr fun f hf => spelledOut?_eq_self (h f hf), List.filterMap_some]

theorem first_of_spelledOut? {f g : String × Json} (h : spelledOut? f = some g) :
    g.1 = (Place.read f.1).first := by
  obtain ⟨w, -, rfl⟩ := Option.map_eq_some_iff.mp h
  rfl

/-! ### What stands at a path -/

namespace Tree

/-- What stands at a path of keys. -/
def at? : List String → Tree → Option Tree
  | [], t => some t
  | key :: rest, t => (t.entries.lookup key).bind (at? rest)

@[simp] theorem entries_mapEntries (f : List (String × Tree) → List (String × Tree)) (t : Tree) :
    (t.mapEntries f).entries = f t.entries := by
  cases t <;> rfl

theorem at?_append (path rest : List String) (t : Tree) :
    at? (path ++ rest) t = (at? path t).bind (at? rest) := by
  induction path generalizing t with
  | nil => rfl
  | cons key path ih =>
    rw [List.cons_append, at?, at?, Option.bind_assoc]
    congr 1
    funext t'
    exact ih t'

/-- What stands at a place after a value came over what stood there. -/
def overlay (origin : String) (old : Option Tree) (v : Json) : Option Tree :=
  some (cover (ofJson origin v) (old.getD nothing))

/-- What no key led to counts as nothing for the values that come over it. -/
theorem foldl_overlay_getD (origin : String) (rest : List String) (o : Option Tree) (v : Json) :
    (given rest v).foldl (overlay origin) (at? rest (o.getD nothing)) =
      (given rest v).foldl (overlay origin) (o.bind (at? rest)) := by
  cases o with
  | some t => rfl
  | none => cases rest <;> rfl

/-- A value comes over what stands at a path as far as it gives something there. -/
theorem at?_cover (origin : String) (h : Leads path v) (t : Tree) :
    at? path (cover (ofJson origin v) t) = (given path v).foldl (overlay origin) (at? path t) := by
  induction path generalizing v t with
  | nil => rfl
  | cons key rest ih =>
    obtain ⟨fields, rfl⟩ := h.exists_object
    rw [ofJson, cover, at?, at?, entries_mapEntries]
    -- one field after the other, since each comes over what those before it left
    generalize t.entries = es
    induction fields generalizing es with
    | nil => rfl
    | cons f fields ihfields =>
      obtain ⟨k, w⟩ := f
      rw [ofFields, coverEntries, ihfields fun f hf => h f (List.mem_cons_of_mem _ hf)]
      simp only [given, List.flatMap_cons, List.foldl_append]
      congr 1
      split
      · next hk =>
        subst hk
        rw [lookup_change, Option.bind_some, ih (h (k, w) List.mem_cons_self rfl),
          foldl_overlay_getD]
      · next hk => rw [lookup_change_of_ne (Ne.symm hk), List.foldl_nil]

/-! ### Layers -/

/-- A value put inside of records is those records put over what is there. -/
theorem changeAt_eq_cover (origin : String) {steps : List Step} (h : nested? steps v = some w) :
    changeAt (cover (ofJson origin v)) steps = cover (ofJson origin w) := by
  induction steps generalizing w with
  | nil =>
    cases h
    rfl
  | cons step steps ih =>
    cases step with
    | index n => cases h
    | key name =>
      obtain ⟨inner, hinner, rfl⟩ := Option.map_eq_some_iff.mp h
      funext t
      rw [changeAt, ih hinner]
      rfl

theorem put_spelledOut (origin : String) {f : String × Json} (h : spelledOut? (name, v) = some f)
    (t : Tree) : t.put (.read name) (ofJson origin v) = cover (ofJson origin (.object [f])) t := by
  obtain ⟨w, hw, rfl⟩ := Option.map_eq_some_iff.mp h
  have hnested : nested? (.key (Place.read name).first :: (Place.read name).steps) v =
      some (.object [((Place.read name).first, w)]) := by
    simp [nested?, hw]
  rw [put, changeAt_eq_cover origin hnested]

/-- An assignment changes nothing under another key. -/
theorem at?_put_of_ne {place : Place} (h : key ≠ place.first) (t u : Tree) :
    at? (key :: rest) (t.put place u) = at? (key :: rest) t := by
  rw [at?, at?, put, changeAt, entries_mapEntries, lookup_change_of_ne h]

theorem ofFields_eq_map (origin : String) (fields : List (String × Json)) :
    ofFields origin fields = fields.map fun f => (f.1, ofJson origin f.2) := by
  induction fields with
  | nil => rfl
  | cons f fields ih =>
    rw [ofFields, ih]
    rfl

/-- A layer leaves at a path what it gives there, over what was there before. -/
theorem at?_layer (origin : String) {assignments : List (String × Json)}
    (hspelled : ∀ f ∈ assignments, (Place.read f.1).first = key → (spelledOut? f).isSome)
    (hleads : Leads (key :: rest) (.object (spelled assignments))) (t : Tree) :
    at? (key :: rest) (t.layer (ofFields origin assignments)) =
      (given (key :: rest) (.object (spelled assignments))).foldl (overlay origin)
        (at? (key :: rest) t) := by
  induction assignments generalizing t with
  | nil => rfl
  | cons f assignments ih =>
    obtain ⟨name, v⟩ := f
    have hlater : ∀ f ∈ assignments, (Place.read f.1).first = key → (spelledOut? f).isSome :=
      fun f hf => hspelled f (List.mem_cons_of_mem _ hf)
    rw [ofFields, layer, List.foldl_cons]
    change at? _ ((t.put (.read name) (ofJson origin v)).layer (ofFields origin assignments)) = _
    cases hf : spelledOut? (name, v) with
    | some g =>
      have hcons : spelled ((name, v) :: assignments) = [g] ++ spelled assignments := by
        rw [spelled, List.filterMap_cons_some hf]
        rfl
      rw [hcons, leads_object_append] at hleads
      rw [ih hlater hleads.2, put_spelledOut origin hf, at?_cover origin hleads.1, hcons,
        given_object_append, List.foldl_append]
    | none =>
      have hcons : spelled ((name, v) :: assignments) = spelled assignments :=
        List.filterMap_cons_none hf
      have hother : key ≠ (Place.read name).first := by
        intro hkey
        have hsome := hspelled (name, v) List.mem_cons_self hkey.symm
        rw [hf] at hsome
        cases hsome
      rw [hcons] at hleads ⊢
      rw [ih hlater hleads, at?_put_of_ne hother]

end Tree

end Codemod.Settings
