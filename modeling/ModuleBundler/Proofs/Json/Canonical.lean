import ModuleBundler.Proofs.Json.Members
import ModuleBundler.Proofs.Json.Reading

/-!
# Canonical values

Two values are the same if they agree as maps from keys to what each key was given last. Sorting the
members at every depth chooses one value among those that are the same, and this is the value of a
text. Its compact form is JSON again, for this value.
-/

namespace ModuleBundler.Json

namespace Value

variable {k k' : String} {v w : Value} {ms ms' : List (String × Value)}

/-- The value that a key was given last. -/
def last? (k : String) : List (String × Value) → Option Value
  | [] => none
  | (k', v) :: ms => (last? k ms).or (if k = k' then some v else none)

/-- Neither the order of members nor what a later member replaced counts. -/
inductive Same : Value → Value → Prop
  | null : Same .null .null
  | bool (b : Bool) : Same (.bool b) (.bool b)
  | number (n : Number) : Same (.number n) (.number n)
  | string (s : String) : Same (.string s) (.string s)
  | array {vs ws : List Value} (hlength : vs.length = ws.length)
    (h : ∀ i (hv : i < vs.length) (hw : i < ws.length), Same vs[i] ws[i]) :
    Same (.array vs) (.array ws)
  | object {ms ms' : List (String × Value)}
    (hkeys : ∀ k, (last? k ms).isSome = (last? k ms').isSome)
    (h : ∀ k v w, last? k ms = some v → last? k ms' = some w → Same v w) :
    Same (.object ms) (.object ms')

mutual

/-- Members are sorted at every depth, each key with its last value. -/
def canonical : Value → Value
  | .null => .null
  | .bool b => .bool b
  | .number n => .number n
  | .string s => .string s
  | .array items => .array (canonicalItems items)
  | .object members => .object (sortMembers (canonicalMembers members))

def canonicalItems : List Value → List Value
  | [] => []
  | v :: items => canonical v :: canonicalItems items

def canonicalMembers : List (String × Value) → List (String × Value)
  | [] => []
  | (k, v) :: members => (k, canonical v) :: canonicalMembers members

end

theorem canonicalItems_eq (vs : List Value) : canonicalItems vs = vs.map canonical := by
  induction vs with
  | nil => rfl
  | cons v vs ih => rw [canonicalItems, ih, List.map_cons]

theorem last?_canonicalMembers (k : String) (ms : List (String × Value)) :
    last? k (canonicalMembers ms) = (last? k ms).map canonical := by
  induction ms with
  | nil => rfl
  | cons m ms ih =>
    rw [canonicalMembers, last?, ih, last?]
    by_cases hk : k = m.1
    · cases last? k ms <;> simp [hk]
    · simp [hk]

/-! ## Sorted members -/

theorem mem_of_last? (h : last? k ms = some v) : (k, v) ∈ ms := by
  induction ms with
  | nil => cases h
  | cons m ms ih =>
    rw [last?, Option.or_eq_some_iff] at h
    obtain h | ⟨-, h⟩ := h
    · exact List.mem_cons_of_mem _ (ih h)
    · obtain ⟨hk, hv⟩ := Option.ite_none_right_eq_some.1 h
      cases hv
      exact hk ▸ List.mem_cons_self

theorem member?_insertMember (k k' : String) (v : Value) (ms : List (String × Value)) :
    member? k (insertMember k' v ms) = if k = k' then some v else member? k ms := by
  induction ms with
  | nil => rfl
  | cons m ms ih =>
    rw [insertMember]
    by_cases hm : k' = m.1
    · rw [if_pos hm, member?, member?, ← hm]
      split <;> rfl
    · rw [if_neg hm]
      split
      · rw [member?]
      · rw [member?, member?, ih]
        by_cases hk : k = m.1
        · have hne : k ≠ k' := fun h => hm (h ▸ hk)
          rw [if_pos hk, if_pos hk, if_neg hne]
        · rw [if_neg hk, if_neg hk]

theorem member?_foldl_insertMember (k : String) (ms found : List (String × Value)) :
    member? k (ms.foldl (fun found m => insertMember m.1 m.2 found) found) =
      (last? k ms).or (member? k found) := by
  induction ms generalizing found with
  | nil => rfl
  | cons m ms ih =>
    rw [List.foldl_cons, ih, member?_insertMember, last?]
    cases last? k ms with
    | some v => rfl
    | none => split <;> rfl

/-- In sorted members a key leads to the value it was given last. -/
theorem member?_sortMembers_eq_last? (k : String) (ms : List (String × Value)) :
    member? k (sortMembers ms) = last? k ms := by
  rw [sortMembers]
  exact (member?_foldl_insertMember k ms []).trans (Option.or_none ..)

/-- Keys increase from one member to the next. -/
def Sorted (ms : List (String × Value)) : Prop := ms.Pairwise fun m m' => m.1 < m'.1

theorem mem_insertMember {m : String × Value} (h : m ∈ insertMember k v ms) :
    m = (k, v) ∨ m ∈ ms := by
  induction ms with
  | nil => exact .inl (List.mem_singleton.1 h)
  | cons m' ms ih =>
    rw [insertMember] at h
    split at h
    · exact (List.mem_cons.1 h).imp_right (List.mem_cons_of_mem _)
    · split at h
      · exact List.mem_cons.1 h
      · obtain rfl | h := List.mem_cons.1 h
        · exact .inr List.mem_cons_self
        · exact (ih h).imp_right (List.mem_cons_of_mem _)

theorem Sorted.insertMember (h : Sorted ms) : Sorted (insertMember k v ms) := by
  induction ms with
  | nil => exact List.pairwise_singleton ..
  | cons m ms ih =>
    obtain ⟨hm, hms⟩ := List.pairwise_cons.1 h
    rw [Value.insertMember]
    split
    · rename_i hk
      exact List.pairwise_cons.2 ⟨hk ▸ hm, hms⟩
    · rename_i hne
      split
      · rename_i hlt
        refine List.pairwise_cons.2 ⟨fun m' hm' => ?_, h⟩
        obtain rfl | hm' := List.mem_cons.1 hm'
        · exact hlt
        · exact String.lt_trans hlt (hm m' hm')
      · rename_i hge
        refine List.pairwise_cons.2 ⟨fun m' hm' => ?_, ih hms⟩
        obtain rfl | hm' := mem_insertMember hm'
        · exact Std.lt_of_le_of_ne hge (Ne.symm hne)
        · exact hm m' hm'

theorem mem_foldl_insertMember {m : String × Value} {found : List (String × Value)}
    (h : m ∈ ms.foldl (fun found m => insertMember m.1 m.2 found) found) : m ∈ ms ∨ m ∈ found := by
  induction ms generalizing found with
  | nil => exact .inr h
  | cons m' ms ih =>
    obtain hm | hm := ih h
    · exact .inl (List.mem_cons_of_mem _ hm)
    · obtain rfl | hm := mem_insertMember hm
      · exact .inl List.mem_cons_self
      · exact .inr hm

theorem mem_of_mem_sortMembers {m : String × Value} (h : m ∈ sortMembers ms) : m ∈ ms :=
  (mem_foldl_insertMember h).resolve_right List.not_mem_nil

theorem sorted_sortMembers (ms : List (String × Value)) : Sorted (sortMembers ms) := by
  have hfold (found : List (String × Value)) (hfound : Sorted found) :
      Sorted (ms.foldl (fun found m => Value.insertMember m.1 m.2 found) found) := by
    induction ms generalizing found with
    | nil => exact hfound
    | cons m ms ih => exact ih _ hfound.insertMember
  exact hfold [] .nil

theorem Sorted.nodup (h : Sorted ms) : (ms.map Prod.fst).Nodup := by
  refine List.pairwise_map.2 (h.imp fun hlt heq => ?_)
  exact String.lt_irrefl _ (heq ▸ hlt)

/-- Sorted members are known by what each key leads to. -/
theorem Sorted.ext (h : Sorted ms) (h' : Sorted ms') (hmember : ∀ k, member? k ms = member? k ms') :
    ms = ms' := by
  have hperm : ms.Perm ms' := by
    refine (List.perm_ext_iff_of_nodup h.nodup.of_map h'.nodup.of_map).2 fun m => ⟨?_, ?_⟩
    · exact fun hm => mem_of_member? (hmember m.1 ▸ member?_of_mem h.nodup hm)
    · exact fun hm => mem_of_member? (hmember m.1 ▸ member?_of_mem h'.nodup hm)
  exact hperm.eq_of_pairwise (fun a b _ _ hlt hgt => absurd (String.lt_trans hlt hgt)
    (String.lt_irrefl _)) h h'

theorem sortMembers_eq_iff :
    sortMembers ms = sortMembers ms' ↔ ∀ k, last? k ms = last? k ms' := by
  constructor
  · intro h k
    rw [← member?_sortMembers_eq_last?, h, member?_sortMembers_eq_last?]
  · intro h
    refine (sorted_sortMembers ms).ext (sorted_sortMembers ms') fun k => ?_
    rw [member?_sortMembers_eq_last?, member?_sortMembers_eq_last?, h]

theorem last?_of_nodup (k : String) (h : (ms.map Prod.fst).Nodup) : last? k ms = member? k ms := by
  rw [← member?_sortMembers_eq_last?, member?_sortMembers k h]

/-- Sorting twice changes no more than sorting once. -/
theorem last?_sortMembers (k : String) (ms : List (String × Value)) :
    last? k (sortMembers ms) = last? k ms := by
  rw [last?_of_nodup k (sorted_sortMembers ms).nodup, member?_sortMembers_eq_last?]

/-! ## Same values -/

theorem Same.symm (h : Same v w) : Same w v := by
  induction h with
  | null => exact .null
  | bool b => exact .bool b
  | number n => exact .number n
  | string s => exact .string s
  | array hlength _ ih => exact .array hlength.symm fun i hw hv => ih i hv hw
  | object hkeys _ ih => exact .object (fun k => (hkeys k).symm) fun k w v hw hv => ih k v w hv hw

theorem Same.trans {u : Value} (h : Same u v) (h' : Same v w) : Same u w := by
  induction h generalizing w with
  | null | bool | number | string => exact h'
  | array hlength _ ih =>
    cases h' with
    | array hlength' h' =>
      exact .array (hlength.trans hlength') fun i hu hw =>
        ih i hu (hlength ▸ hu) (h' i (hlength ▸ hu) hw)
  | object hkeys _ ih =>
    cases h' with
    | object hkeys' h' =>
      refine .object (fun k => (hkeys k).trans (hkeys' k)) fun k u w hu hw => ?_
      obtain ⟨v, hv⟩ := Option.isSome_iff_exists.1 ((hkeys k).symm.trans (by rw [hu]; rfl))
      exact ih k u v hu hv (h' k v w hv hw)

/-- Same values have one canonical form. -/
theorem Same.canonical_eq (h : Same v w) : v.canonical = w.canonical := by
  induction h with
  | null | bool | number | string => rfl
  | array hlength _ ih =>
    rw [canonical, canonical, canonicalItems_eq, canonicalItems_eq]
    refine congrArg Value.array (List.ext_getElem (by simpa using hlength) fun i hv hw => ?_)
    rw [List.getElem_map, List.getElem_map]
    exact ih i _ _
  | @object ms ms' hkeys _ ih =>
    rw [canonical, canonical]
    refine congrArg Value.object (sortMembers_eq_iff.2 fun k => ?_)
    rw [last?_canonicalMembers, last?_canonicalMembers]
    have hkey := hkeys k
    cases hv : last? k ms with
    | none =>
      rw [hv] at hkey
      have hnone : last? k ms' = none :=
        Option.isNone_iff_eq_none.1 (Option.isSome_eq_false_iff.1 hkey.symm)
      rw [hnone]
    | some v =>
      rw [hv] at hkey
      obtain ⟨w, hw⟩ := Option.isSome_iff_exists.1 hkey.symm
      rw [hw, Option.map_some, Option.map_some, ih k v w hv hw]

mutual

/-- Nothing but the order of members and what was replaced is lost. -/
theorem same_canonical : ∀ v : Value, Same v v.canonical
  | .null => .null
  | .bool b => .bool b
  | .number n => .number n
  | .string s => .string s
  | .array vs => by
    rw [canonical, canonicalItems_eq]
    refine .array (List.length_map _).symm fun i hv _ => ?_
    rw [List.getElem_map]
    exact same_canonicalItems vs _ (List.getElem_mem hv)
  | .object ms => by
    have hlast (k : String) : last? k (sortMembers (canonicalMembers ms)) =
        (last? k ms).map canonical := by
      rw [last?_sortMembers, last?_canonicalMembers]
    rw [canonical]
    refine .object (fun k => by rw [hlast, Option.isSome_map]) fun k v w hv hw => ?_
    rw [hlast, hv, Option.map_some, Option.some.injEq] at hw
    exact hw ▸ same_canonicalMembers ms _ (mem_of_last? hv)

theorem same_canonicalItems : ∀ vs : List Value, ∀ v ∈ vs, Same v v.canonical
  | [] => List.forall_mem_nil _
  | v :: vs => List.forall_mem_cons.2 ⟨same_canonical v, same_canonicalItems vs⟩

theorem same_canonicalMembers :
    ∀ ms : List (String × Value), ∀ m ∈ ms, Same m.2 (canonical m.2)
  | [] => List.forall_mem_nil _
  | (_, v) :: ms => List.forall_mem_cons.2 ⟨same_canonical v, same_canonicalMembers ms⟩

end

theorem same_iff : Same v w ↔ v.canonical = w.canonical :=
  ⟨Same.canonical_eq, fun h => (same_canonical v).trans (h ▸ (same_canonical w).symm)⟩

@[simp] theorem canonical_canonical (v : Value) : v.canonical.canonical = v.canonical :=
  (same_canonical v).canonical_eq.symm

/-! ## What a canonical value keeps -/

theorem exactMembers_iff : ExactMembers ms ↔ ∀ m ∈ ms, Exact m.2 := by
  induction ms with
  | nil => simp [ExactMembers]
  | cons m ms ih => rw [ExactMembers, ih, List.forall_mem_cons]

theorem nestingOfMembers_le_iff {n : Nat} :
    nestingOfMembers ms ≤ n ↔ ∀ m ∈ ms, nesting m.2 ≤ n := by
  induction ms with
  | nil => simp [nestingOfMembers]
  | cons m ms ih => rw [nestingOfMembers, Nat.max_le, ih, List.forall_mem_cons]

mutual

theorem Exact.canonical : ∀ {v : Value}, v.Exact → v.canonical.Exact
  | .null, h | .bool _, h | .number _, h | .string _, h => by rwa [Value.canonical]
  | .array vs, h => by
    rw [Value.canonical, Exact]
    exact ExactItems.canonicalItems (show ExactItems vs from h)
  | .object ms, h => by
    rw [Value.canonical, Exact, exactMembers_iff]
    have hmembers := ExactMembers.canonicalMembers (show ExactMembers ms from h)
    exact fun m hm => exactMembers_iff.1 hmembers m (mem_of_mem_sortMembers hm)

theorem ExactItems.canonicalItems :
    ∀ {vs : List Value}, ExactItems vs → ExactItems (Value.canonicalItems vs)
  | [], h => h
  | _ :: _, h => ⟨Exact.canonical h.1, ExactItems.canonicalItems h.2⟩

theorem ExactMembers.canonicalMembers :
    ∀ {ms : List (String × Value)}, ExactMembers ms → ExactMembers (Value.canonicalMembers ms)
  | [], h => h
  | _ :: _, h => ⟨Exact.canonical h.1, ExactMembers.canonicalMembers h.2⟩

end

mutual

/-- What is replaced may have been nested more deeply. -/
theorem nesting_canonical_le : ∀ v : Value, v.canonical.nesting ≤ v.nesting
  | .null | .bool _ | .number _ | .string _ => Nat.le_refl _
  | .array vs => by
    rw [canonical, nesting, nesting]
    exact Nat.succ_le_succ (nestingOfItems_canonicalItems_le vs)
  | .object ms => by
    rw [canonical, nesting, nesting]
    refine Nat.succ_le_succ (nestingOfMembers_le_iff.2 fun m hm => ?_)
    exact nestingOfMembers_le_iff.1 (nestingOfMembers_canonicalMembers_le ms) m
      (mem_of_mem_sortMembers hm)

theorem nestingOfItems_canonicalItems_le :
    ∀ vs : List Value, nestingOfItems (canonicalItems vs) ≤ nestingOfItems vs
  | [] => Nat.le_refl _
  | v :: vs => max_le_max (nesting_canonical_le v) (nestingOfItems_canonicalItems_le vs)

theorem nestingOfMembers_canonicalMembers_le :
    ∀ ms : List (String × Value), nestingOfMembers (canonicalMembers ms) ≤ nestingOfMembers ms
  | [] => Nat.le_refl _
  | (_, v) :: ms =>
    max_le_max (nesting_canonical_le v) (nestingOfMembers_canonicalMembers_le ms)

end

end Value

/-! ## The value of a document -/

namespace Document

theorem toOption_bind {ε α β : Type} (e : Except ε α) (f : α → Except ε β) :
    (e >>= f).toOption = e.toOption.bind fun a => (f a).toOption := by
  cases e <;> rfl

mutual

/-- A whole document has the canonical form of what was written, and no other document has a
value. -/
theorem toOption_value : ∀ d : Document, d.value.toOption = d.written?.map Value.canonical
  | .null _ | .bool _ _ | .string _ _ | .broken _ | .number (.error _) _ | .number (.ok _) _ => rfl
  | .array items ending _ => by
    rw [value, toOption_bind, toOption_valueItems items]
    cases ending <;> rw [written?] <;> cases writtenItems? items <;> rfl
  | .object members ending _ => by
    rw [value, toOption_bind, toOption_valueMembers members]
    cases ending <;> rw [written?] <;> cases writtenMembers? members <;> rfl

theorem toOption_valueItems : ∀ ds : List Document,
    (valueItems ds).toOption = (writtenItems? ds).map Value.canonicalItems
  | [] => rfl
  | d :: ds => by
    rw [valueItems, toOption_bind, toOption_value d, writtenItems?]
    simp only [toOption_bind, toOption_valueItems ds]
    cases d.written? <;> cases writtenItems? ds <;> rfl

theorem toOption_valueMembers : ∀ ds : List (String × Document),
    (valueMembers ds).toOption = (writtenMembers? ds).map Value.canonicalMembers
  | [] => rfl
  | (k, d) :: ds => by
    rw [valueMembers, toOption_bind, toOption_value d, writtenMembers?]
    simp only [toOption_bind, toOption_valueMembers ds]
    cases d.written? <;> cases writtenMembers? ds <;> rfl

end

theorem value_eq_ok_iff {d : Document} {v : Value} :
    d.value = .ok v ↔ ∃ w, d.written? = some w ∧ w.canonical = v := by
  rw [← Option.map_eq_some_iff, ← toOption_value]
  cases d.value with
  | error f => exact ⟨nofun, nofun⟩
  | ok w => exact ⟨fun h => by cases h; rfl, fun h => by cases h; rfl⟩

end Document

/-- Whatever a text is parsed as is the canonical form of what it is JSON for. -/
theorem denotes_of_parse {text : String} {v : Value} (h : parse text = .ok v) :
    ∃ w, Denotes text w ∧ w.nesting < maxDepth ∧ w.canonical = v := by
  obtain ⟨d, hread, hd⟩ := read_of_parse h
  obtain ⟨w, hw, rfl⟩ := Document.value_eq_ok_iff.1 hd
  obtain ⟨hdenotes, hnesting⟩ := denotes_of_read hread hw
  exact ⟨w, hdenotes, hnesting, rfl⟩

theorem parse_of_denotes {text : String} {v : Value} (h : Denotes text v) (hexact : v.Exact)
    (hnesting : v.nesting < maxDepth) : parse text = .ok v.canonical := by
  obtain ⟨d, hread, hd⟩ := read_of_denotes h hexact hnesting
  rw [parse, hread]
  dsimp only
  rw [Document.value_eq_ok_iff.2 ⟨v, hd, rfl⟩]
  rfl

/-! ## The compact form of a value -/

namespace Value

/-- Items as they stand behind others. -/
def furtherItems : List Value → List Char
  | [] => []
  | v :: vs => ',' :: (compactItems (v :: vs)).toList

theorem compactItems_cons (v : Value) (vs : List Value) :
    (compactItems (v :: vs)).toList = v.compact.toList ++ furtherItems vs := by
  cases vs with
  | nil => simp [compactItems, furtherItems]
  | cons w vs => simp [compactItems, furtherItems]

theorem spelledString_quote (s : String) (rest : List Char) :
    SpelledString s ((quote s).toList ++ rest) rest := by
  obtain ⟨m, hm⟩ := readString_quote s rest 0
  rw [toList_quote, List.cons_append] at hm ⊢
  exact spelledString_of_readString hm

theorem spelledNumber_write {n : Number} (h : (number n).Exact) (rest : List Char) :
    SpelledNumber n (n.write.toList ++ rest) rest := by
  cases n with
  | natural n =>
    rw [Number.write, Nat.toString_eq_ofList_toDigits, String.toList_ofList]
    exact ⟨rfl, h⟩
  | negative n =>
    rw [Number.write, Nat.toString_eq_ofList_toDigits]
    simp only [String.toList_append, String.toList_ofList]
    exact ⟨rfl, h⟩
  | float x => exact absurd h not_false

mutual

/-- The compact form of a value without floats spells it. -/
theorem Exact.spelled_compact :
    ∀ {v : Value}, v.Exact → ∀ rest, Spelled v (v.compact.toList ++ rest) rest
  | .null, _, _ => rfl
  | .bool true, _, _ => rfl
  | .bool false, _, _ => rfl
  | .number n, h, rest => by
    rw [Spelled, compact]
    exact spelledNumber_write h rest
  | .string s, _, rest => by
    rw [Spelled, compact]
    exact spelledString_quote s rest
  | .array vs, h, rest => by
    rw [Spelled, compact]
    refine ⟨(compactItems vs).toList ++ ']' :: rest, by simp, ?_⟩
    exact ExactItems.spelled_compact (show ExactItems vs from h) rest
  | .object ms, h, rest => by
    rw [Spelled, toList_compact_object]
    refine ⟨(compactMembers ms).toList ++ '\x7d' :: rest, by simp, ?_⟩
    exact ExactMembers.spelled_compact (show ExactMembers ms from h) rest

theorem ExactItems.spelled_compact : ∀ {vs : List Value}, ExactItems vs → ∀ rest,
    SpelledItems vs true ((compactItems vs).toList ++ ']' :: rest) rest
  | [], _, rest => .none _
  | v :: vs, h, rest => by
    rw [compactItems_cons, List.append_assoc]
    exact ⟨_, _, .none _, Exact.spelled_compact h.1 _, ExactItems.spelled_further h.2 rest⟩

theorem ExactItems.spelled_further : ∀ {vs : List Value}, ExactItems vs → ∀ rest,
    SpelledItems vs false (furtherItems vs ++ ']' :: rest) rest
  | [], _, rest => .none _
  | v :: vs, h, rest => by
    rw [furtherItems, compactItems_cons, List.cons_append, List.append_assoc]
    exact ⟨_, _, ⟨_, .none _, .none _⟩, Exact.spelled_compact h.1 _,
      ExactItems.spelled_further h.2 rest⟩

theorem ExactMembers.spelled_compact : ∀ {ms : List (String × Value)}, ExactMembers ms → ∀ rest,
    SpelledMembers ms true ((compactMembers ms).toList ++ '\x7d' :: rest) rest
  | [], _, rest => .none _
  | (k, v) :: ms, h, rest => by
    rw [compactMembers_cons, List.append_assoc, List.cons_append, List.append_assoc]
    exact ⟨_, _, _, _, _, .none _, spelledString_quote k _, .none _, .none _,
      Exact.spelled_compact h.1 _, ExactMembers.spelled_further h.2 rest⟩

theorem ExactMembers.spelled_further : ∀ {ms : List (String × Value)}, ExactMembers ms → ∀ rest,
    SpelledMembers ms false (furtherMembers ms ++ '\x7d' :: rest) rest
  | [], _, rest => .none _
  | (k, v) :: ms, h, rest => by
    rw [furtherMembers, compactMembers_cons, List.cons_append, List.append_assoc, List.cons_append,
      List.append_assoc]
    exact ⟨_, _, _, _, _, ⟨_, .none _, .none _⟩, spelledString_quote k _, .none _, .none _,
      Exact.spelled_compact h.1 _, ExactMembers.spelled_further h.2 rest⟩

end

theorem Exact.denotes_compact {v : Value} (h : v.Exact) : Denotes v.compact v :=
  ⟨v.compact.toList ++ [], [], by rw [List.append_nil]; exact .none _, h.spelled_compact [],
    .none _⟩

/-- The compact form of a value is read back. -/
theorem Exact.parse_compact {v : Value} (h : v.Exact) (hnesting : v.nesting < maxDepth) :
    parse v.compact = .ok v.canonical :=
  parse_of_denotes h.denotes_compact h hnesting

end Value

end ModuleBundler.Json
