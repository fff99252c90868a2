import ConfirmedDelivery.Attributes
import ConfirmedDelivery.Proofs.Dict
import ConfirmedDelivery.Proofs.Json.Value

/-!
# Attributes and the writes behind them

However attributes were written, what stands under a name is the last write to it that had an effect
(`Attributes.values_written`), and the headers say the same as a lookup. The text of a set of
attributes is read back, nulls included, and its headers make the same headers again.
-/

namespace ConfirmedDelivery.Attributes

/-- A write to attributes that are there. -/
inductive Write where
  | add (name value : String)
  | put (name : String) (value : Except Json.Fault Json)

def Write.apply (a : Attributes) : Write → Attributes
  | .add name value => a.add name value
  | .put name value => a.put name value

/-- What a write sets, if it has an effect. -/
def Write.effect? : Write → Option (String × Json)
  | .add name value => if value = "" then none else some (name, .text value)
  | .put _ (.error _) => none
  | .put _ (.ok .null) => none
  | .put name (.ok value) => some (name, value)

/-- The attributes made of headers first and then by writes. -/
def written (headers : List (String × String)) (writes : List Write) : Attributes :=
  writes.foldl Write.apply (ofHeaders headers)

/-- The writes that had an effect, first to last, each header among them. -/
def effects (headers : List (String × String)) (writes : List Write) : List (String × Json) :=
  headers.map (fun h => (h.1, .text h.2)) ++ writes.filterMap Write.effect?

/-! ## What stands after a number of writes -/

section Written

variable (headers : List (String × String)) (writes : List Write)

theorem Write.apply_eq (w : Write) (a : Attributes) :
    w.apply a = w.effect?.elim a fun e => ⟨a.values.insert e.1 e.2⟩ := by
  cases w with
  | add name value =>
    by_cases hv : value = ""
    · subst hv
      rfl
    · change (if value.isEmpty then a else _) = (if value = "" then none else _).elim a _
      rw [if_neg hv, if_neg (by simpa using hv)]
      rfl
  | put name value =>
    rcases value with fault | value
    · rfl
    · cases value <;> rfl

-- a write without an effect is left out of the list, so it need not be looked at again
theorem values_written : (written headers writes).values = Dict.ofList (effects headers writes) := by
  have hrun : ∀ (writes : List Write) (a : Attributes), (writes.foldl Write.apply a).values
      = (writes.filterMap Write.effect?).foldl (fun d e => d.insert e.1 e.2) a.values := by
    intro writes
    induction writes with
    | nil => exact fun _ => rfl
    | cons w writes ih =>
      intro a
      rw [List.foldl_cons, ih, List.filterMap_cons, Write.apply_eq]
      cases w.effect? <;> rfl
  unfold written effects Dict.ofList
  rw [hrun, List.foldl_append]
  rfl

theorem apply_skipped {w : Write} (h : w.effect? = none) (a : Attributes) : w.apply a = a := by
  rw [Write.apply_eq, h]
  rfl

theorem text?_written (k : String) : (written headers writes).text? k
    = ((effects headers writes).reverse.lookup k).map Json.plainText := by
  unfold text? get?
  rw [values_written, Dict.get?_ofList]

theorem text?_written_eq_none (k : String) : (written headers writes).text? k = none
    ↔ ∀ e ∈ effects headers writes, e.1 ≠ k := by
  rw [text?_written, Option.map_eq_none_iff, List.lookup_eq_none_iff]
  simp only [List.mem_reverse, bne_iff_ne, ne_comm]

theorem size_written : (written headers writes).size
    = ((effects headers writes).map Prod.fst).toFinset.card := by
  have hkeys : ((effects headers writes).map Prod.fst).toFinset
      = (written headers writes).values.keys.toFinset := by
    ext k
    rw [List.mem_toFinset, List.mem_toFinset, values_written, Dict.mem_keys_ofList]
  rw [hkeys, List.toFinset_card_of_nodup (Dict.nodup_keys _)]
  exact (List.length_map _).symm

end Written

/-! ## Headers and text -/

theorem headers_get? (a : Attributes) (k : String) : a.headers.get? k = a.text? k :=
  Dict.get?_mapValues _ _ _

/-- Headers are the same after they have been made attributes and headers again. -/
theorem headers_ofHeaders (a : Attributes) : (ofHeaders a.headers.entries).headers = a.headers := by
  have hvalues : (ofHeaders a.headers.entries).values = a.headers.mapValues fun _ => Json.text :=
    Dict.ofList_perm (List.Perm.refl _)
  apply Dict.ext
  unfold headers at hvalues ⊢
  rw [hvalues]
  simp only [Dict.mapValues, List.map_map]
  rfl

theorem takes_chars {a : Attributes} (h : ∀ e ∈ a.values.entries, e.2.Fits (Json.depthLimit - 1))
    {fields : List (String × Json)} (hfields : fields.Perm a.values.entries) :
    Json.Takes reader (Json.mapping fields).chars a := by
  intro b rest hb _
  have hmembers := Json.members_fieldChars (fun (a : Attributes) k j => ⟨a.values.insert k j⟩) empty
    rest fun f hf => Json.takes_chars (h f (hfields.mem_iff.1 hf))
  have hfold : fields.foldl (fun (a : Attributes) f => ⟨a.values.insert f.1 f.2⟩) empty
      = ⟨Dict.ofList fields⟩ := List.foldl_hom Attributes.mk fun _ _ => rfl
  have hchars : (Json.mapping fields).chars = '{' :: Json.fieldChars fields ++ ['}'] := by
    rw [Json.chars]
  unfold reader
  rw [hchars, List.append_assoc, List.cons_append, Json.skipSpace_blank hb,
    Json.skipSpace_cons (by decide)]
  rw [hfold, Dict.ofList_perm hfields] at hmembers
  exact hmembers

/-- Attributes are read back from their text, whatever order it has them in. -/
theorem read_render {a : Attributes} (h : ∀ e ∈ a.values.entries, e.2.Fits (Json.depthLimit - 1))
    {fields : List (String × Json)} (hfields : fields.Perm a.values.entries) :
    read (Json.mapping fields).render = .ok a := by
  have hread := Json.readAll_takes (takes_chars h hfields) Json.blank_nil Json.blank_nil
  rwa [List.append_nil, List.nil_append] at hread

/-- Of the writes to a name the last one with an effect stands, and lookups and headers tell it. The
text of any attributes is read back in every order of the names, and their headers stay as they are. -/
theorem last_effect_stands (headers : List (String × String)) (writes : List Write) (m : Attributes) :
    written [] writes = writes.foldl Write.apply empty
      ∧ (∀ k, (written headers writes).text? k = (written headers writes).headers.get? k
        ∧ (written headers writes).text? k
          = ((effects headers writes).reverse.lookup k).map Json.plainText
        ∧ ((written headers writes).text? k = none ↔ ∀ e ∈ effects headers writes, e.1 ≠ k))
      ∧ (∀ w : Write, w.effect? = none → ∀ a, w.apply a = a)
      ∧ (written headers writes).size = ((effects headers writes).map Prod.fst).toFinset.card
      ∧ ((written headers writes).isEmpty = true ↔ effects headers writes = [])
      ∧ ((∀ e ∈ m.values.entries, e.2.Fits 126) → ∀ fields : List (String × Json),
        fields.Perm m.values.entries → read (Json.mapping fields).render = .ok m)
      ∧ (ofHeaders m.headers.entries).headers = m.headers := by
  have hempty : (written headers writes).isEmpty = true ↔ effects headers writes = [] := by
    rw [isEmpty, beq_iff_eq, size_written, Finset.card_eq_zero, List.toFinset_eq_empty_iff,
      List.map_eq_nil_iff]
  exact ⟨rfl, fun k => ⟨(headers_get? _ k).symm, text?_written _ _ k, text?_written_eq_none _ _ k⟩,
    fun _ h => apply_skipped h, size_written _ _, hempty, fun hm _ hfields => read_render hm hfields,
    headers_ofHeaders m⟩

def withNull : Attributes :=
  ⟨[("gone", .null), ("nested", .sequence [.real .one, .integer 1])], by decide⟩

/-- Writes of which the first and the last have an effect. -/
def mixed : List Write :=
  [.put "tenant" (.ok (.integer 5)), .add "tenant" "", .put "tenant" (.ok .null),
    .put "broken" (.error ⟨.keyNotText, none⟩), .add "kind" "order"]

/-- A later number stands in place of an earlier text, and an empty header is there. -/
theorem last_effect_stands_mixed :
    (written [("tenant", "acme"), ("trace", "")] mixed).text? "tenant" = some "5"
      ∧ (written [("tenant", "acme"), ("trace", "")] mixed).headers.get? "trace" = some ""
      ∧ (written [("tenant", "acme"), ("trace", "")] mixed).text? "broken" = none
      ∧ (written [("tenant", "acme"), ("trace", "")] mixed).size = 3
      ∧ read (Json.mapping withNull.values.entries.reverse).render = .ok withNull := by
  have hitems : ∀ j ∈ [Json.real .one, .integer 1], j.Fits 125 :=
    List.forall_mem_cons.2 ⟨.real (by decide), List.forall_mem_singleton.2
      (.integer (by decide) (by decide))⟩
  have hm : ∀ e ∈ withNull.values.entries, e.2.Fits 126 :=
    List.forall_mem_cons.2 ⟨.null, List.forall_mem_singleton.2 (.sequence hitems)⟩
  obtain ⟨-, hnames, -, hsize, -, hread, -⟩ :=
    last_effect_stands [("tenant", "acme"), ("trace", "")] mixed withNull
  refine ⟨?_, ?_, ?_, ?_, hread hm _ (List.reverse_perm _)⟩
  · rw [(hnames "tenant").2.1]
    decide +kernel
  · rw [← (hnames "trace").1, (hnames "trace").2.1]
    decide +kernel
  · rw [(hnames "broken").2.1]
    decide +kernel
  · rw [hsize]
    decide +kernel

end ConfirmedDelivery.Attributes
