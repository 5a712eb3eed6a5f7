import Mathlib.Data.List.Chain
import YamlListing.Proofs.Diff.Trail

set_option autoImplicit false

/-! # Runs of changes

`deletesFirst` only moves steps: it leaves the numbers of both sides in order, and the steps as they
are (`IsScript.deletesFirst`). Afterwards no deletion follows right on an insertion, so that every
run of changes falls into its deletions and then its insertions (`isDeletesFirst_deletesFirst`). -/

namespace YamlListing

variable {α : Type}

namespace Edit

/-- In every run of changes all deletions come before all insertions. -/
def IsDeletesFirst (script : List Edit) : Prop :=
  ∀ run, run <:+: script → (∀ e ∈ run, e.isChange = true) →
    ∃ deletes inserts, run = deletes ++ inserts ∧ (∀ e ∈ deletes, ∃ o, e = delete o) ∧
      ∀ e ∈ inserts, ∃ t, e = insert t

/-- Whether one step may stand right before another: an insertion may not before a deletion. -/
def MayPrecede : Edit → Edit → Prop
  | insert _, delete _ => False
  | _, _ => True

/-! ## What moving deletions keeps -/

/-- What is read off keeps and deletions is read off in the same order. -/
theorem filterMap_deletesFirstAfter {β : Type} {f : Edit → Option β} (hf : ∀ t, f (insert t) = none)
    {ins : List Edit} (script : List Edit) (h : ins.filterMap f = []) :
    (deletesFirstAfter ins script).filterMap f = script.filterMap f := by
  induction script generalizing ins with
  | nil => exact h
  | cons e script ih =>
      cases e with
      | keep o t =>
          simp only [deletesFirstAfter, List.filterMap_append, h, List.nil_append,
            List.filterMap_cons, ih List.filterMap_nil]
      | delete o => simp only [deletesFirstAfter, List.filterMap_cons, ih h]
      | insert t =>
          have h' : (ins ++ [insert t]).filterMap f = [] := by
            rw [List.filterMap_append, h, List.nil_append, List.filterMap_cons, hf t,
              List.filterMap_nil]
          simp only [deletesFirstAfter, ih h', List.filterMap_cons, hf t]

theorem tip?_deletesFirstAfter (ins script : List Edit) :
    (deletesFirstAfter ins script).filterMap tip? = (ins ++ script).filterMap tip? := by
  induction script generalizing ins with
  | nil => rw [deletesFirstAfter, List.append_nil]
  | cons e script ih =>
      cases e with
      | keep o t =>
          simp only [deletesFirstAfter, List.filterMap_append, List.filterMap_cons, tip?, ih,
            List.nil_append]
      | delete o =>
          simp only [deletesFirstAfter, List.filterMap_append, List.filterMap_cons, tip?, ih]
      | insert t => rw [deletesFirstAfter, ih, List.append_assoc, List.singleton_append]

theorem deletesFirstAfter_perm (ins script : List Edit) :
    (deletesFirstAfter ins script).Perm (ins ++ script) := by
  induction script generalizing ins with
  | nil => rw [deletesFirstAfter, List.append_nil]
  | cons e script ih =>
      cases e with
      | keep o t => exact ((ih []).cons _).append_left ins
      | delete o => exact ((ih ins).cons _).trans List.perm_middle.symm
      | insert t =>
          have h := ih (ins ++ [insert t])
          rwa [List.append_assoc, List.singleton_append] at h

@[simp] theorem distance_deletesFirst (script : List Edit) :
    distance (deletesFirst script) = distance script :=
  (deletesFirstAfter_perm [] script).countP_eq isChange

theorem mem_deletesFirst {script : List Edit} {e : Edit} :
    e ∈ deletesFirst script ↔ e ∈ script := (deletesFirstAfter_perm [] script).mem_iff

/-! ## How the result reads -/

theorem isChain_of_inserts {ins : List Edit} (h : ∀ e ∈ ins, ∃ t, e = insert t) :
    ins.IsChain MayPrecede := by
  induction ins with
  | nil => exact List.isChain_nil
  | cons e ins ih =>
      rw [List.isChain_cons]
      refine ⟨?_, ih fun f hf => h f (List.mem_cons_of_mem _ hf)⟩
      intro f hf
      obtain ⟨t, rfl⟩ := h f (List.mem_cons_of_mem _ (List.mem_of_mem_head? hf))
      obtain ⟨t', rfl⟩ := h e (List.mem_cons_self ..)
      trivial

theorem isChain_deletesFirstAfter {ins : List Edit} (script : List Edit)
    (h : ∀ e ∈ ins, ∃ t, e = insert t) : (deletesFirstAfter ins script).IsChain MayPrecede := by
  induction script generalizing ins with
  | nil => exact isChain_of_inserts h
  | cons e script ih =>
      cases e with
      | keep o t =>
          rw [deletesFirstAfter, List.isChain_append, List.isChain_cons]
          refine ⟨isChain_of_inserts h, ⟨fun _ _ => trivial, ih (by simp)⟩, ?_⟩
          intro e he f hf
          obtain rfl : keep o t = f := by simpa using hf
          cases e <;> trivial
      | delete o =>
          rw [deletesFirstAfter, List.isChain_cons]
          exact ⟨fun _ _ => trivial, ih h⟩
      | insert t =>
          rw [deletesFirstAfter]
          apply ih
          intro e he
          rcases List.mem_append.1 he with he | he
          · exact h e he
          · exact ⟨t, List.mem_singleton.1 he⟩

/-- Changes that begin with an insertion, none right before a deletion, are all insertions. -/
theorem inserts_of_isChain {run : List Edit} {t : Nat} (h : (insert t :: run).IsChain MayPrecede)
    (hrun : ∀ e ∈ run, e.isChange = true) : ∀ e ∈ run, ∃ t, e = insert t := by
  induction run generalizing t with
  | nil => simp
  | cons f run ih =>
      rw [List.isChain_cons_cons] at h
      have hf := hrun f (List.mem_cons_self ..)
      cases f with
      | keep o t' => cases hf
      | delete o => exact h.1.elim
      | insert t' =>
          intro e he
          rcases List.mem_cons.1 he with rfl | he
          · exact ⟨t', rfl⟩
          · exact ih h.2 (fun g hg => hrun g (List.mem_cons_of_mem _ hg)) e he

theorem exists_split_of_isChain {run : List Edit} (h : run.IsChain MayPrecede)
    (hrun : ∀ e ∈ run, e.isChange = true) :
    ∃ deletes inserts, run = deletes ++ inserts ∧ (∀ e ∈ deletes, ∃ o, e = delete o) ∧
      ∀ e ∈ inserts, ∃ t, e = insert t := by
  induction run with
  | nil => exact ⟨[], [], rfl, by simp, by simp⟩
  | cons e run ih =>
      have hrest : ∀ f ∈ run, f.isChange = true := fun f hf => hrun f (List.mem_cons_of_mem _ hf)
      have he := hrun e (List.mem_cons_self ..)
      cases e with
      | keep o t => cases he
      | delete o =>
          obtain ⟨deletes, inserts, rfl, hd, hi⟩ := ih h.tail hrest
          refine ⟨delete o :: deletes, inserts, rfl, ?_, hi⟩
          intro f hf
          rcases List.mem_cons.1 hf with rfl | hf
          · exact ⟨o, rfl⟩
          · exact hd f hf
      | insert t =>
          refine ⟨[], insert t :: run, rfl, by simp, ?_⟩
          intro f hf
          rcases List.mem_cons.1 hf with rfl | hf
          · exact ⟨t, rfl⟩
          · exact inserts_of_isChain h hrest f hf

theorem isDeletesFirst_deletesFirst (script : List Edit) :
    IsDeletesFirst (deletesFirst script) := by
  rintro run ⟨before, after, hscript⟩ hrun
  have hchain : (deletesFirst script).IsChain MayPrecede :=
    isChain_deletesFirstAfter script (by simp)
  rw [← hscript] at hchain
  exact exists_split_of_isChain hchain.left_of_append.right_of_append hrun

end Edit

theorem IsScript.deletesFirst {a b : List α} {script : List Edit} (h : IsScript a b script) :
    IsScript a b (Edit.deletesFirst script) where
  origins := (Edit.filterMap_deletesFirstAfter (fun _ => rfl) script rfl).trans h.origins
  tips := (Edit.tip?_deletesFirstAfter [] script).trans h.tips
  kept o t hm := h.kept o t (Edit.mem_deletesFirst.1 hm)

end YamlListing
