import Changelog.Element

namespace Changelog

theorem ok_bind {ε α β : Type} (a : α) (f : α → Except ε β) : (Except.ok a >>= f) = f a := rfl

theorem bind_eq_ok {ε α β : Type} {x : Except ε α} {f : α → Except ε β} {b : β}
    (h : (x >>= f) = .ok b) : ∃ a, x = .ok a ∧ f a = .ok b := by
  cases x with
  | error e => nomatch h
  | ok a => exact ⟨a, rfl, h⟩

theorem map_eq_ok {ε α β : Type} {x : Except ε α} {f : α → β} {b : β} (h : x.map f = .ok b) :
    ∃ a, x = .ok a ∧ f a = b := by
  cases x with
  | error e => nomatch h
  | ok a => exact ⟨a, rfl, Except.ok.inj h⟩

theorem foldlM_keeps {ε α σ : Type} {step : σ → α → Except ε σ} {K : σ → Prop}
    (hstep : ∀ s a t, K s → step s a = .ok t → K t) {items : List α} {s t : σ} (hs : K s)
    (h : items.foldlM step s = .ok t) : K t := by
  induction items generalizing s with
  | nil => exact Except.ok.inj h ▸ hs
  | cons a rest ih =>
    rw [List.foldlM_cons] at h
    obtain ⟨u, hu, h⟩ := bind_eq_ok h
    exact ih (hstep s a u hs hu) h

theorem mem_of_mapM {ε α β : Type} {f : α → Except ε β} {items : List α} {results : List β}
    (h : items.mapM f = .ok results) : ∀ b ∈ results, ∃ a ∈ items, f a = .ok b := by
  induction items generalizing results with
  | nil =>
    obtain rfl : [] = results := Except.ok.inj h
    nofun
  | cons a rest ih =>
    rw [List.mapM_cons] at h
    obtain ⟨first, hfirst, h⟩ := bind_eq_ok h
    obtain ⟨others, hothers, h⟩ := bind_eq_ok h
    obtain rfl := Except.ok.inj h
    intro b hb
    rcases List.mem_cons.1 hb with rfl | hb
    · exact ⟨a, List.mem_cons_self .., hfirst⟩
    · obtain ⟨c, hc, hcb⟩ := ih hothers b hb
      exact ⟨c, List.mem_cons_of_mem _ hc, hcb⟩

/-- A step for each item, one after the other, each of which puts the item at the end of a list. -/
theorem foldlM_items {ε α σ : Type} (step : σ → Element → Except ε σ) (write : α → Element)
    (put : List α → σ) (items : List α)
    (h : ∀ done, ∀ a ∈ items, step (put done) (write a) = .ok (put (done ++ [a]))) (done : List α) :
    (items.map write).foldlM step (put done) = .ok (put (done ++ items)) := by
  induction items generalizing done with
  | nil =>
    rw [List.append_nil]
    rfl
  | cons a rest ih =>
    rw [List.map_cons, List.foldlM_cons, h done a (List.mem_cons_self ..), ok_bind,
      ih (fun done b hb => h done b (List.mem_cons_of_mem _ hb)), List.append_assoc]
    rfl

theorem foldlM_option {ε α σ : Type} (step : σ → Element → Except ε σ) (write : α → Element)
    (put : Option α → σ) (item : Option α)
    (h : ∀ a ∈ item, step (put none) (write a) = .ok (put (some a))) :
    (item.toList.map write).foldlM step (put none) = .ok (put item) := by
  cases item with
  | none => rfl
  | some a =>
    rw [Option.toList_some, List.map_cons, List.map_nil, List.foldlM_cons, h a rfl, ok_bind]
    rfl

theorem foldlM_append_ok {ε σ : Type} {step : σ → Element → Except ε σ} {xs ys : List Element}
    {s t u : σ} (hxs : xs.foldlM step s = .ok t) (hys : ys.foldlM step t = .ok u) :
    (xs ++ ys).foldlM step s = .ok u := by
  rw [List.foldlM_append, hxs, ok_bind, hys]

theorem mapM_items {ε α : Type} {f : Element → Except ε α} {write : α → Element} {items : List α}
    (h : ∀ a ∈ items, f (write a) = .ok a) : (items.map write).mapM f = .ok items := by
  induction items with
  | nil => rfl
  | cons a rest ih =>
    rw [List.map_cons, List.mapM_cons, h a (List.mem_cons_self ..), ok_bind,
      ih fun b hb => h b (List.mem_cons_of_mem _ hb)]
    rfl

end Changelog
