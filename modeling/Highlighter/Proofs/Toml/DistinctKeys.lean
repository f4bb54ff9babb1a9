import Highlighter.Toml.Document

/-!
# The keys of a document

No table of a document that can be read has a key twice, at whatever depth it lies
(`read_distinct`).  A field is added only where there is none of its key, every other change
replaces a field by one of the same key, and a table is changed at the end of a path only
(`Fields.change?_distinct`).

What a reader gives is stated with `Yields`, which is passed on from the parts of a reader
to the whole.
-/

namespace Highlighter.Toml

open Reader

/-! ## What a reader gives -/

/-- What comes out of a computation, if it does not fail, has a property. -/
def Yields {ε α : Type} (r : Except ε α) (P : α → Prop) : Prop := ∀ a, r = .ok a → P a

namespace Yields

variable {ε α β : Type} {r : Except ε α} {f : α → Except ε β} {P : β → Prop} {Q : α → Prop}

theorem bind (hr : Yields r Q) (hf : ∀ a, Q a → Yields (f a) P) : Yields (r >>= f) P := by
  intro b hb
  cases r with
  | error e => cases hb
  | ok a => exact hf a (hr a rfl) b hb

/-- A part that the property does not depend on. -/
theorem after (hf : ∀ a, Yields (f a) P) : Yields (r >>= f) P :=
  bind (Q := fun _ => True) (fun _ _ => trivial) fun a _ => hf a

theorem pure {a : α} (h : Q a) : Yields (pure a : Except ε α) Q := by
  intro b hb
  cases hb
  exact h

theorem stop {t : Text} : Yields (stop t) Q := nofun

theorem orStop {t : Text} {a? : Option α} (h : ∀ a, a? = some a → Q a) :
    Yields (orStop t a?) Q := by
  intro a ha
  cases a? with
  | none => cases ha
  | some a' =>
    cases ha
    exact h a rfl

end Yields

/-! ## Distinct keys -/

/-- No table in a value has a key twice. -/
inductive Value.Distinct : Value → Prop where
  | string (t : Text) : Distinct (.string t)
  | integer (n : Int) : Distinct (.integer n)
  | float (d : Double) : Distinct (.float d)
  | boolean (b : Bool) : Distinct (.boolean b)
  | datetime (t : Text) : Distinct (.datetime t)
  | array {items : List Value} : (∀ v ∈ items, Distinct v) → Distinct (.array items)
  | table {fields : List (Text × Value)} : (fields.map Prod.fst).Nodup →
      (∀ field ∈ fields, Distinct field.2) → Distinct (.table fields)

/-- No table in a node has a key twice. -/
inductive Node.Distinct : Node → Prop where
  | value {v : Value} : v.Distinct → Distinct (.value v)
  | table {source : Source} {fields : Fields} : (fields.map Prod.fst).Nodup →
      (∀ field ∈ fields, Distinct field.2) → Distinct (.table source fields)
  | tables {items : List Fields} : (∀ fields ∈ items, (fields.map Prod.fst).Nodup) →
      (∀ fields ∈ items, ∀ field ∈ fields, Distinct field.2) → Distinct (.tables items)

/-- No table in the fields has a key twice, and they do not either. -/
structure Fields.Distinct (fields : Fields) : Prop where
  keys : (fields.map Prod.fst).Nodup
  nodes : ∀ field ∈ fields, field.2.Distinct

theorem fieldValues_eq : ∀ fields : Fields,
    fieldValues fields = fields.map fun field => (field.1, field.2.toValue)
  | [] => rfl
  | (key, node) :: rest => by
    rw [fieldValues, fieldValues_eq rest]
    rfl

theorem tableValues_eq : ∀ items : List Fields,
    tableValues items = items.map fun fields => .table (fieldValues fields)
  | [] => rfl
  | fields :: rest => by rw [tableValues, tableValues_eq rest, List.map_cons]

theorem keys_fieldValues (fields : Fields) :
    (fieldValues fields).map Prod.fst = fields.map Prod.fst := by
  rw [fieldValues_eq, List.map_map]
  rfl

/-- The fields of a table, as values. -/
theorem distinct_table_fieldValues {fields : Fields} (hkeys : (fields.map Prod.fst).Nodup)
    (hnodes : ∀ field ∈ fields, field.2.toValue.Distinct) :
    (Value.table (fieldValues fields)).Distinct := by
  refine .table (by rwa [keys_fieldValues]) ?_
  rw [fieldValues_eq]
  exact List.forall_mem_map.mpr hnodes

theorem Node.Distinct.toValue {node : Node} (h : node.Distinct) : node.toValue.Distinct := by
  induction h with
  | value hv => exact hv
  | table hkeys _ ih => exact distinct_table_fieldValues hkeys ih
  | @tables items hkeys _ ih =>
    have htables : ∀ v ∈ tableValues items, v.Distinct := by
      rw [tableValues_eq]
      exact List.forall_mem_map.mpr fun fields hfields =>
        distinct_table_fieldValues (hkeys fields hfields) (ih fields hfields)
    exact .array htables

namespace Fields

variable {fields fields' : Fields} {key : Text} {node : Node}

theorem Distinct.nil : Distinct [] := ⟨.nil, by simp⟩

theorem Distinct.values (h : fields.Distinct) : (Value.table (fieldValues fields)).Distinct :=
  distinct_table_fieldValues h.keys fun field hfield => (h.nodes field hfield).toValue

theorem Distinct.toTable (h : fields.Distinct) (source : Source) :
    (Node.table source fields).Distinct := .table h.keys h.nodes

/-- A field is added whose key is not there. -/
theorem Distinct.add (h : fields.Distinct) (hkey : fields.lookup key = none)
    (hnode : node.Distinct) : Distinct (fields ++ [(key, node)]) where
  keys := by
    have hnew : ∀ field ∈ fields, field.1 ≠ key := fun field hfield heq => by
      simpa [heq] using List.lookup_eq_none_iff.mp hkey field hfield
    rw [List.map_append, List.nodup_append]
    refine ⟨h.keys, by simp, ?_⟩
    simpa using fun k n hfield => hnew (k, n) hfield
  nodes := by
    simpa [or_imp, forall_and, hnode] using h.nodes

/-- A field is replaced. -/
theorem Distinct.replace (h : fields.Distinct) (hnode : node.Distinct) :
    (fields.replace key node).Distinct where
  keys := by
    have hsame : (fields.replace key node).map Prod.fst = fields.map Prod.fst := by
      rw [Fields.replace, List.map_map]
      refine List.map_congr_left fun field _ => ?_
      rw [Function.comp_apply]
      split
      · next heq => exact (beq_iff_eq.mp heq).symm
      · rfl
    rw [hsame]
    exact h.keys
  nodes := by
    refine List.forall_mem_map.mpr fun field hfield => ?_
    split
    · exact hnode
    · exact h.nodes field hfield

theorem Distinct.of_lookup (h : fields.Distinct) (hnode : fields.lookup key = some node) :
    node.Distinct := by
  obtain ⟨l₁, l₂, rfl, -⟩ := List.lookup_eq_some_iff.mp hnode
  exact h.nodes (key, node) (by simp)

/-- The fields of a table under a key. -/
theorem Distinct.of_lookup_table {source : Source} {inner : Fields} (h : fields.Distinct)
    (hnode : fields.lookup key = some (.table source inner)) : inner.Distinct := by
  cases h.of_lookup hnode with
  | table hkeys hnodes => exact ⟨hkeys, hnodes⟩

/-- The fields of any of the tables under a key. -/
theorem Distinct.of_lookup_tables {items : List Fields} (h : fields.Distinct)
    (hnode : fields.lookup key = some (.tables items)) : ∀ inner ∈ items, inner.Distinct := by
  cases h.of_lookup hnode with
  | tables hkeys hnodes => exact fun inner hinner => ⟨hkeys inner hinner, hnodes inner hinner⟩

theorem distinct_tables {items : List Fields} (h : ∀ inner ∈ items, inner.Distinct) :
    (Node.tables items).Distinct :=
  .tables (fun inner hinner => (h inner hinner).keys) fun inner hinner => (h inner hinner).nodes

/-- A change to a table at the end of a path keeps all keys distinct if it keeps those of that
table distinct. -/
theorem change?_distinct (by_ : Source) {f : Source → Fields → Option Fields}
    (hf : ∀ {source fields fields'}, Distinct fields → f source fields = some fields' →
      Distinct fields') :
    ∀ (path : List Text) {source : Source} {fields fields' : Fields}, fields.Distinct →
      change? by_ f path source fields = some fields' → fields'.Distinct
  | [], _, _, _, h, hchange => hf h hchange
  | key :: path, _, fields, _, h, hchange => by
    rw [change?] at hchange
    split at hchange
    · next hlookup =>
      obtain ⟨inner, hinner, hadd⟩ := Option.bind_eq_some_iff.mp hchange
      cases hadd
      exact h.add hlookup ((change?_distinct by_ hf path .nil hinner).toTable by_)
    · cases hchange
    · next items hlookup =>
      obtain ⟨inner, hinner, hreplace⟩ := Option.bind_eq_some_iff.mp hchange
      cases hreplace
      have hitems := h.of_lookup_tables hlookup
      have hlast : Distinct (items.getLast?.getD []) := by
        cases hempty : items.getLast? with
        | none => exact .nil
        | some last => exact hitems last (List.mem_of_getLast? hempty)
      refine h.replace (distinct_tables fun fields hfields => ?_)
      rcases List.mem_append.mp hfields with hold | hnew
      · exact hitems fields (List.dropLast_subset items hold)
      · rw [List.mem_singleton.mp hnew]
        exact change?_distinct by_ hf path hlast hinner
    · next source inner hlookup =>
      split at hchange
      · cases hchange
      · obtain ⟨inner', hinner, hreplace⟩ := Option.bind_eq_some_iff.mp hchange
        cases hreplace
        exact h.replace ((change?_distinct by_ hf path (h.of_lookup_table hlookup)
          hinner).toTable source)

theorem openTable?_distinct {path : List Text} (h : fields.Distinct)
    (hopen : openTable? path key fields = some fields') : fields'.Distinct := by
  refine change?_distinct .longerHeader (fun {_ inner inner'} hinner hstep => ?_) path h hopen
  split at hstep
  · next hlookup =>
    cases hstep
    exact hinner.add hlookup (Distinct.nil.toTable .header)
  · next hlookup =>
    cases hstep
    exact hinner.replace ((hinner.of_lookup_table hlookup).toTable .header)
  · cases hstep

theorem openItem?_distinct {path : List Text} (h : fields.Distinct)
    (hopen : openItem? path key fields = some fields') : fields'.Distinct := by
  refine change?_distinct .longerHeader (fun {_ inner inner'} hinner hstep => ?_) path h hopen
  split at hstep
  · next hlookup =>
    cases hstep
    exact hinner.add hlookup (distinct_tables (by simp [Distinct.nil]))
  · next hlookup =>
    cases hstep
    refine hinner.replace (distinct_tables ?_)
    simpa [or_imp, forall_and, Distinct.nil] using hinner.of_lookup_tables hlookup
  · cases hstep

theorem add?_distinct {path : List Text} {source : Source} {v : Value} (h : fields.Distinct)
    (hv : v.Distinct) (hadd : add? path key v source fields = some fields') :
    fields'.Distinct := by
  refine change?_distinct .dottedKey (fun {_ inner inner'} hinner hstep => ?_) path h hadd
  split at hstep
  · cases hstep
  · next hfree =>
    cases hstep
    obtain ⟨-, hlookup⟩ := not_or.mp (mt Bool.or_eq_true_iff.mpr hfree)
    exact hinner.add (Option.not_isSome_iff_eq_none.mp hlookup) (.value hv)

theorem addUnder?_distinct {header path : List Text} {v : Value} (h : fields.Distinct)
    (hv : v.Distinct) (hadd : addUnder? header path key v fields = some fields') :
    fields'.Distinct :=
  change?_distinct .longerHeader (fun hinner hstep => add?_distinct hinner hv hstep) header h hadd

end Fields

/-! ## Values -/

theorem integer?_distinct {negative : Bool} {base : Nat} {digits : Text} {v : Value}
    (h : integer? negative base digits = some v) : v.Distinct := by
  rw [integer?] at h
  split at h
  · cases h
    exact .integer _
  · cases h

theorem float?_distinct {d : Decimal} {v : Value} (h : float? d = some v) : v.Distinct := by
  rw [float?] at h
  split at h
  · cases h
  · cases h
    exact .float _

theorem readUnsigned_distinct (negative : Bool) (t : Text) :
    Yields (readUnsigned negative t) fun v => v.1.Distinct := by
  rw [readUnsigned]
  split
  · exact .pure (.float _)
  · exact .pure (.float _)
  · refine .after fun (whole, rest) => .after fun (part, rest) => .after fun (exponent, rest) => ?_
    dsimp only
    split
    · exact .bind (.orStop fun _ => integer?_distinct) fun _ hv => .pure hv
    · exact .bind (.orStop fun _ => float?_distinct) fun _ hv => .pure hv

theorem readNumber_distinct (t : Text) : Yields (readNumber t) fun v => v.1.Distinct := by
  rw [readNumber]
  split
  · exact .after fun _ => .bind (.orStop fun _ => integer?_distinct) fun _ hv => .pure hv
  · exact readUnsigned_distinct _ _

theorem datetime?_distinct {t : Text} {v : Value × Text} (h : datetime? t = some v) :
    v.1.Distinct := by
  rw [datetime?] at h
  split at h
  · split at h
    · cases h
      exact .datetime _
    · cases h
      exact .datetime _
  · obtain ⟨_, -, rfl⟩ := Option.map_eq_some_iff.mp h
    exact .datetime _

theorem readQuantity_distinct (t : Text) : Yields (readQuantity t) fun v => v.1.Distinct := by
  rw [readQuantity]
  split
  · next hdate => exact .pure (datetime?_distinct hdate)
  · exact readNumber_distinct t

section Parts

variable {readOne : Reader Value} (h : ∀ t, Yields (readOne t) fun v => v.1.Distinct)

include h

theorem readItems_distinct : ∀ (fuel : Nat) (t : Text),
    Yields (readItems readOne fuel t) fun vs => ∀ v ∈ vs.1, v.Distinct
  | 0, t => .stop
  | fuel + 1, t => by
    rw [readItems]
    refine .after fun t => ?_
    split
    · exact .pure (by simp)
    · refine .bind (h _) fun (v, rest) hv => .after fun rest => ?_
      split
      · exact .bind (readItems_distinct fuel _) fun (vs, rest) hvs =>
          .pure (List.forall_mem_cons.mpr ⟨hv, hvs⟩)
      · exact .pure (by simpa using hv)
      · exact .stop

theorem readField_distinct (t : Text) :
    Yields (readField readOne t) fun field => field.1.2.Distinct := by
  rw [readField]
  exact .after fun _ => .after fun _ => .bind (h _) fun _ hv => .pure hv

theorem readFields_distinct : ∀ (fuel : Nat) {fields : Fields} (t : Text), fields.Distinct →
    Yields (readFields readOne fuel fields t) fun fields => fields.1.Distinct
  | 0, _, t, _ => .stop
  | fuel + 1, fields, t, hfields => by
    rw [readFields]
    refine .bind (readField_distinct h t) fun ((key, v), rest) hv => ?_
    refine .bind (.orStop fun _ hadd => Fields.add?_distinct hfields hv hadd)
      fun fields' hfields' => ?_
    split
    · exact readFields_distinct fuel _ hfields'
    · exact .pure hfields'
    · exact .stop

end Parts

theorem readValue_distinct : ∀ (depth : Nat) (t : Text),
    Yields (readValue depth t) fun v => v.1.Distinct
  | 0, t => .stop
  | depth + 1, t => by
    have ih := readValue_distinct depth
    unfold readValue
    split
    · exact .stop
    · split
      · exact .after fun _ => .pure (.string _)
      · split
        · exact .bind (readItems_distinct ih _ _) fun _ hvs => .pure (.array hvs)
        · split
          · split
            · exact .pure (.table .nil (by simp))
            · exact .bind (readFields_distinct ih _ _ .nil) fun _ hfields => .pure hfields.values
          · split
            · exact .after fun _ => .pure (.boolean true)
            · split
              · exact .after fun _ => .pure (.boolean false)
              · exact readQuantity_distinct _

/-! ## Documents -/

theorem readHeader_distinct {reading : Reading} (h : reading.fields.Distinct) (start t : Text) :
    Yields (readHeader reading start t) fun after => after.1.fields.Distinct := by
  rw [readHeader]
  exact .after fun _ => .after fun _ => .after fun _ =>
    .bind (.orStop fun _ hopen => Fields.openTable?_distinct h hopen) fun _ hfields =>
      .pure hfields

theorem readItemHeader_distinct {reading : Reading} (h : reading.fields.Distinct)
    (start t : Text) :
    Yields (readItemHeader reading start t) fun after => after.1.fields.Distinct := by
  rw [readItemHeader]
  exact .after fun _ => .after fun _ => .after fun _ =>
    .bind (.orStop fun _ hopen => Fields.openItem?_distinct h hopen) fun _ hfields =>
      .pure hfields

/-- A line keeps the keys distinct. -/
theorem readStatement_distinct {reading : Reading} (h : reading.fields.Distinct) (t : Text) :
    Yields (readStatement reading t) fun after => after.1.fields.Distinct := by
  rw [readStatement]
  split
  · exact .pure h
  · exact readItemHeader_distinct h _ _
  · exact readHeader_distinct h _ _
  · split
    · exact .after fun _ => .pure h
    · refine .bind (readField_distinct (readValue_distinct maxDepth) _)
        fun ((key, v), after) hv => .after fun after => ?_
      exact .bind (.orStop fun _ hadd => Fields.addUnder?_distinct h hv hadd) fun _ hfields =>
        .pure hfields

theorem readLines_distinct : ∀ (fuel : Nat) {reading : Reading} (t : Text),
    reading.fields.Distinct → Yields (readLines fuel reading t) fun after => after.fields.Distinct
  | 0, _, _, _ => .stop
  | fuel + 1, reading, t, h => by
    rw [readLines]
    split
    · exact .pure h
    · exact .bind (readStatement_distinct h t) fun (_, rest) hafter =>
        readLines_distinct fuel rest hafter

/-- No table of a document has a key twice. -/
theorem read_distinct {document : Text} {fields : List (Text × Value)}
    (h : read document = .ok fields) : (Value.table fields).Distinct := by
  have hread : Yields (read document) fun fields => (Value.table fields).Distinct := by
    rw [read]
    exact .bind (readLines_distinct _ _ .nil) fun _ hfields => .pure hfields.values
  exact hread fields h

end Highlighter.Toml
