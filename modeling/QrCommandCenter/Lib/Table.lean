import Mathlib.Data.List.Nodup
import Mathlib.Data.List.Basic
import Mathlib.Order.Basic

/-!
# Keyed tables as lists of rows

A table is the list of its rows in insertion order, each row with a key. A transaction is an `Except` computation;
`bind_eq_ok` takes a successful one apart.

* `lookup key rows k` : the row of key `k`;
* `updateWhere p f` and `deleteWhere p` : `UPDATE ... WHERE` and `DELETE ... WHERE`; `Deleted pre post`;
* `Keyed key next rows` : a primary key filled from a sequence whose next value is `next`;
* `inserted key pre post` : the rows of `post` whose key `pre` did not have;
* `Evolves key R F pre post` : rows keep their key and move by `R`, further rows satisfy `F`
  (`Evolves.refl`, `Evolves.trans`, `Evolves.mono`).
-/

namespace QrCommandCenter.Table

variable {ε : Type}

/-! ## Transactions -/

/-- A transaction that succeeds ran its first statement and then the rest. -/
theorem bind_eq_ok {α β : Type} {x : Except ε α} {f : α → Except ε β} {b : β} :
    (x >>= f) = .ok b ↔ ∃ a, x = .ok a ∧ f a = .ok b := by
  cases x with
  | error | ok => simp [bind, Except.bind]

/-- A check that ends in an error was passed. -/
theorem ite_error_eq_ok {α : Type} {c : Prop} [Decidable c] {e : ε} {x : Except ε α} {a : α} :
    (if c then .error e else x) = .ok a ↔ ¬ c ∧ x = .ok a := by
  split <;> simp [*]

theorem isOk_iff {α : Type} {x : Except ε α} : x.isOk = true ↔ ∃ a, x = .ok a := by
  cases x with
  | error | ok => simp [Except.isOk, Except.toBool]

/-! ## Rows and statements -/

variable {α κ : Type} [DecidableEq κ] (key : α → κ)

/-- The row of key `k`. -/
def lookup (rows : List α) (k : κ) : Option α := rows.find? (fun r => key r = k)

/-- `UPDATE rows SET f WHERE p`. -/
def updateWhere (p : α → Bool) (f : α → α) (rows : List α) : List α :=
  rows.map (fun r => if p r then f r else r)

/-- `DELETE FROM rows WHERE p`. -/
def deleteWhere (p : α → Bool) (rows : List α) : List α := rows.filter (fun r => !p r)

/-! ## Lookup -/

variable {key} {rows pre post : List α} {k : κ} {r : α} {p : α → Bool} {f : α → α} {R : α → α → Prop} {F : α → Prop}

theorem lookup_mem (h : lookup key rows k = some r) : r ∈ rows ∧ key r = k := by
  refine ⟨List.mem_of_find?_eq_some h, ?_⟩
  simpa using List.find?_some h

theorem lookup_eq_none : lookup key rows k = none ↔ ∀ r ∈ rows, key r ≠ k := by
  simp [lookup]

theorem lookup_isSome_of_mem (key : α → κ) (h : r ∈ rows) : ∃ r', lookup key rows (key r) = some r' := by
  cases hl : lookup key rows (key r) with
  | some r' => exact ⟨r', rfl⟩
  | none => exact absurd rfl (lookup_eq_none.mp hl r h)

/-- With distinct keys the row of key `k` is the only one. -/
theorem lookup_of_nodup (hn : (rows.map key).Nodup) (h : r ∈ rows) : lookup key rows (key r) = some r := by
  obtain ⟨r', hr'⟩ := lookup_isSome_of_mem key h
  obtain ⟨hm, hk⟩ := lookup_mem hr'
  rw [hr', List.inj_on_of_nodup_map hn hm h hk]

theorem lookup_append (rows new : List α) (k : κ) :
    lookup key (rows ++ new) k = (lookup key rows k).or (lookup key new k) := by
  simp [lookup, List.find?_append]

theorem lookup_map (hf : ∀ r, key (f r) = key r) (rows : List α) (k : κ) :
    lookup key (rows.map f) k = (lookup key rows k).map f := by
  unfold lookup
  rw [List.find?_map]
  congr 2
  funext r
  simp [hf]

theorem lookup_updateWhere (hf : ∀ r, key (f r) = key r) (rows : List α) (k : κ) :
    lookup key (updateWhere p f rows) k = (lookup key rows k).map (fun r => if p r then f r else r) := by
  refine lookup_map (fun r => ?_) rows k
  split
  · exact hf r
  · rfl

theorem mem_updateWhere {r' : α} (h : r' ∈ updateWhere p f rows) :
    ∃ r ∈ rows, r' = if p r then f r else r := by
  obtain ⟨r, hr, e⟩ := List.mem_map.mp h
  exact ⟨r, hr, e.symm⟩

omit [DecidableEq κ] in
theorem map_key_updateWhere (hf : ∀ r, key (f r) = key r) (rows : List α) :
    (updateWhere p f rows).map key = rows.map key := by
  unfold updateWhere
  rw [List.map_map]
  apply List.map_congr_left
  intro r _
  simp only [Function.comp]
  split
  · exact hf r
  · rfl

theorem mem_deleteWhere : r ∈ deleteWhere p rows ↔ r ∈ rows ∧ p r = false := by
  simp [deleteWhere]

/-- Some rows of `pre` are gone in `post`. -/
def Deleted (pre post : List α) : Prop := ∃ p, post = deleteWhere p pre

theorem Deleted.refl (rows : List α) : Deleted rows rows := ⟨fun _ => false, by simp [deleteWhere]⟩

theorem Deleted.trans {a b c : List α} (h₁ : Deleted a b) (h₂ : Deleted b c) : Deleted a c := by
  obtain ⟨p, rfl⟩ := h₁
  obtain ⟨q, rfl⟩ := h₂
  refine ⟨fun r => p r || q r, ?_⟩
  simp only [deleteWhere, List.filter_filter]
  congr 1
  funext r
  cases p r <;> cases q r <;> rfl

theorem Deleted.mem (h : Deleted pre post) (hr : r ∈ post) : r ∈ pre := by
  obtain ⟨p, rfl⟩ := h
  exact (mem_deleteWhere.mp hr).1

theorem lookup_deleteWhere (h : ∀ r ∈ rows, key r = k → p r = false) :
    lookup key (deleteWhere p rows) k = lookup key rows k := by
  induction rows with
  | nil => rfl
  | cons r rows ih =>
    have ih' := ih fun x hx => h x (List.mem_cons_of_mem r hx)
    unfold lookup deleteWhere at *
    by_cases hk : key r = k
    · simp [h r List.mem_cons_self hk, hk]
    · cases hp : p r <;> simp [hp, hk, ih']

theorem nodup_map_snoc (hn : (rows.map key).Nodup) (hr : lookup key rows (key r) = none) :
    ((rows ++ [r]).map key).Nodup := by
  rw [List.map_append, List.nodup_append]
  refine ⟨hn, by simp, fun a ha b hb e => ?_⟩
  obtain ⟨x, hx, rfl⟩ := List.mem_map.mp ha
  rw [List.map_singleton, List.mem_singleton] at hb
  exact lookup_eq_none.mp hr x hx (e.trans hb)

/-! ## Primary keys from a sequence -/

structure Keyed [LT κ] (key : α → κ) (next : κ) (rows : List α) : Prop where
  nodup : (rows.map key).Nodup
  below : ∀ r ∈ rows, key r < next

section Keyed
variable [Preorder κ] {next next' : κ}

theorem Keyed.lookup_next (h : Keyed key next rows) : lookup key rows next = none :=
  lookup_eq_none.mpr fun r hr e => lt_irrefl _ (e ▸ h.below r hr)

theorem Keyed.snoc (h : Keyed key next rows) (hr : key r = next) (hlt : next < next') :
    Keyed key next' (rows ++ [r]) := by
  refine ⟨nodup_map_snoc h.nodup (by rw [hr]; exact h.lookup_next), fun x hx => ?_⟩
  rcases List.mem_append.mp hx with hx | hx
  · exact (h.below x hx).trans hlt
  · rw [List.mem_singleton.mp hx, hr]
    exact hlt

omit [DecidableEq κ]

theorem Keyed.nil : Keyed key next [] := ⟨by simp, by simp⟩

theorem Keyed.updateWhere (h : Keyed key next rows) (hf : ∀ r, key (f r) = key r) :
    Keyed key next (updateWhere p f rows) := by
  refine ⟨by rw [map_key_updateWhere hf]; exact h.nodup, fun r' hr' => ?_⟩
  have hk : key r' ∈ rows.map key := by
    rw [← map_key_updateWhere (p := p) hf rows]
    exact List.mem_map_of_mem hr'
  obtain ⟨r, hr, e⟩ := List.mem_map.mp hk
  rw [← e]
  exact h.below r hr

theorem Keyed.deleteWhere (h : Keyed key next rows) (p : α → Bool) :
    Keyed key next (deleteWhere p rows) :=
  ⟨h.nodup.sublist ((List.filter_sublist).map key), fun r hr => h.below r (mem_deleteWhere.mp hr).1⟩

theorem Deleted.keyed (hd : Deleted rows post) (h : Keyed key next rows) : Keyed key next post := by
  obtain ⟨p, rfl⟩ := hd
  exact h.deleteWhere p

end Keyed

/-! ## Inserted rows -/

/-- The rows of `post` whose key `pre` did not have. -/
def inserted (key : α → κ) (pre post : List α) : List α :=
  post.filter (fun r => (lookup key pre (key r)).isNone)

theorem inserted_self (rows : List α) : inserted key rows rows = [] := by
  simp only [inserted, List.filter_eq_nil_iff]
  intro r hr
  obtain ⟨r', hr'⟩ := lookup_isSome_of_mem key hr
  simp [hr']

theorem inserted_eq_nil (h : ∀ k ∈ post.map key, k ∈ pre.map key) :
    inserted key pre post = [] := by
  simp only [inserted, List.filter_eq_nil_iff]
  intro r hr
  obtain ⟨q, hq, e⟩ := List.mem_map.mp (h _ (List.mem_map_of_mem hr))
  obtain ⟨r', hr'⟩ := lookup_isSome_of_mem key hq
  rw [← e, hr']
  simp

theorem inserted_updateWhere (hf : ∀ r, key (f r) = key r) (rows : List α) :
    inserted key rows (updateWhere p f rows) = [] :=
  inserted_eq_nil fun k hk => by rwa [map_key_updateWhere hf] at hk

theorem inserted_deleteWhere (p : α → Bool) (rows : List α) :
    inserted key rows (deleteWhere p rows) = [] :=
  inserted_eq_nil fun k hk => by
    obtain ⟨r, hr, e⟩ := List.mem_map.mp hk
    exact e ▸ List.mem_map_of_mem (mem_deleteWhere.mp hr).1

theorem Deleted.inserted (h : Deleted pre post) : inserted key pre post = [] := by
  obtain ⟨p, rfl⟩ := h
  exact inserted_deleteWhere p pre

theorem inserted_append {new : List α} (h : ∀ k ∈ post.map key, k ∈ pre.map key)
    (hn : ∀ r ∈ new, lookup key pre (key r) = none) : inserted key pre (post ++ new) = new := by
  have hpost : post.filter (fun r => (lookup key pre (key r)).isNone) = [] := inserted_eq_nil h
  unfold inserted
  rw [List.filter_append, hpost, List.nil_append, List.filter_eq_self]
  intro r hr
  simp [hn r hr]

/-! ## Evolution of a table -/

/-- Rows keep their key and move by `R`; further rows satisfy `F`. -/
structure Evolves (key : α → κ) (R : α → α → Prop) (F : α → Prop) (pre post : List α) : Prop where
  kept : ∀ k r, lookup key pre k = some r → ∃ r', lookup key post k = some r' ∧ R r r'
  new : ∀ k r', lookup key pre k = none → lookup key post k = some r' → F r'

theorem Evolves.refl (hR : ∀ r, R r r) (F : α → Prop) (rows : List α) :
    Evolves key R F rows rows :=
  ⟨fun _ r h => ⟨r, h, hR r⟩, fun _ _ hn h => by rw [hn] at h; cases h⟩

theorem Evolves.trans {R₁ R₂ : α → α → Prop} {F₁ F₂ : α → Prop} {a b c : List α}
    (h₁ : Evolves key R₁ F₁ a b) (h₂ : Evolves key R₂ F₂ b c)
    (hR : ∀ x y z, R₁ x y → R₂ y z → R x z) (hF : ∀ y z, F₁ y → R₂ y z → F z)
    (hF' : ∀ z, F₂ z → F z) : Evolves key R F a c := by
  refine ⟨fun k r hr => ?_, fun k r' hn hr' => ?_⟩
  · obtain ⟨m, hm, e₁⟩ := h₁.kept k r hr
    obtain ⟨t, ht, e₂⟩ := h₂.kept k m hm
    exact ⟨t, ht, hR r m t e₁ e₂⟩
  · cases hb : lookup key b k with
    | none => exact hF' r' (h₂.new k r' hb hr')
    | some m =>
      obtain ⟨t, ht, e₂⟩ := h₂.kept k m hb
      rw [hr'] at ht
      cases ht
      exact hF m r' (h₁.new k m hn hb) e₂

theorem Evolves.mono {R' : α → α → Prop} {F' : α → Prop} (h : Evolves key R F pre post)
    (hR : ∀ x y, R x y → R' x y) (hF : ∀ x, F x → F' x) : Evolves key R' F' pre post := by
  refine ⟨fun k r hr => ?_, fun k r' hn hr' => hF r' (h.new k r' hn hr')⟩
  obtain ⟨m, hm, e⟩ := h.kept k r hr
  exact ⟨m, hm, hR r m e⟩

theorem Evolves.updateWhere (hf : ∀ r, key (f r) = key r) (hR : ∀ r, p r = true → R r (f r)) (hrefl : ∀ r, p r = false → R r r)
    (F : α → Prop) (rows : List α) : Evolves key R F rows (updateWhere p f rows) := by
  refine ⟨fun k r hr => ?_, fun k r' hn hr' => ?_⟩
  · rw [lookup_updateWhere hf, hr]
    refine ⟨_, rfl, ?_⟩
    cases hp : p r with
    | true => simpa [hp] using hR r hp
    | false => simpa [hp] using hrefl r hp
  · rw [lookup_updateWhere hf, hn] at hr'
    cases hr'

theorem Evolves.append (hR : ∀ r, R r r) (rows : List α) {new : List α} (hF : ∀ r ∈ new, F r) :
    Evolves key R F rows (rows ++ new) := by
  refine ⟨fun k r hr => ⟨r, by simp [lookup_append, hr], hR r⟩, fun k r' hn hr' => ?_⟩
  rw [lookup_append, hn, Option.none_or] at hr'
  exact hF r' (lookup_mem hr').1

end QrCommandCenter.Table
