import UsagePolicy.Policy.Editing
import UsagePolicy.Proofs.Policy.ActiveParameters

/-!
# Edits that do not show

Whatever is edited of the restrictions that are not selected, and of the dataset's id and its
description, does not show in the documents of a draft. Another restriction may be tried out in
between: selecting the first one again brings its documents back.
-/
namespace UsagePolicy

theorem Documents.generate_congr {d d' : Dataset} {c c' : PolicyConfig} (huuid : d.uuid = d'.uuid)
    (hname : d.name = d'.name)
    (hrestriction : ∀ default, c.restriction default = c'.restriction default)
    (hfault : Ids.countFault? c = Ids.countFault? c') (t : Timestamp) :
    generate d c t = generate d' c' t := by
  have hids : Ids.compile d c = Ids.compile d' c' :=
    Ids.compile_eq_iff.mpr ⟨huuid, PolicyConfig.restriction_eq_iff_ids.mp (hrestriction _)⟩
  have hodrl : Odrl.compile d c t = Odrl.compile d' c' t := by
    have hagreement : Odrl.agreement d c = Odrl.agreement d' c' := funext fun text =>
      Odrl.agreement_eq_iff.mpr
        ⟨huuid, hname, rfl, PolicyConfig.restriction_eq_iff_odrl.mp (hrestriction _)⟩
    rw [Odrl.compile, Odrl.compile, hagreement]
  simp only [generate, Ids.text, Odrl.text, hids, hodrl, hfault]

/-- Documents for a policy with this restriction show what the edit replaces. -/
def Edit.Shows (selected : PolicyType) : Edit → Prop
  | .datasetName _ | .datasetUuid _ => True
  | .consumers _ => selected = .restrictConsumer
  | .connectors _ => selected = .restrictConnector
  | .startTime _ | .endTime _ => selected = .timeLimit
  | .maxUsageCount _ => selected = .usageCount
  | .datasetId _ | .datasetDescription _ | .type _ => False

namespace Draft

variable {selected : PolicyType} {e : Edit} (draft : Draft) (t : Timestamp)

def select (selected : PolicyType) : Draft :=
  draft.edit (.type selected)

def documents : Except GenerationFault Documents :=
  Documents.generate draft.dataset draft.config t

theorem documents_select_edit (h : ¬ e.Shows selected) :
    ((draft.edit e).select selected).documents t = (draft.select selected).documents t := by
  cases e with
  | datasetName value | datasetUuid value => exact absurd trivial h
  | datasetId value | datasetDescription value | type value => rfl
  | consumers value | connectors value | startTime value | endTime value | maxUsageCount value =>
    refine Documents.generate_congr rfl rfl (fun default => ?_) ?_ t <;>
      cases selected <;> first | rfl | exact absurd rfl h

theorem documents_select_round {round : List Edit} (h : ∀ e ∈ round, ¬ e.Shows selected) :
    ((round.foldl edit draft).select selected).documents t =
      (draft.select selected).documents t := by
  induction round generalizing draft with
  | nil => rfl
  | cons e round ih =>
    rw [List.foldl_cons, ih _ fun e he => h e (List.mem_cons_of_mem _ he),
      documents_select_edit draft t (h e List.mem_cons_self)]

theorem documents_select_history {rounds : List (List Edit)}
    (h : ∀ round ∈ rounds, ∀ e ∈ round, ¬ e.Shows selected) :
    ∀ d ∈ draft.history rounds,
      (d.select selected).documents t = (draft.select selected).documents t := by
  induction rounds generalizing draft with
  | nil =>
    intro d hd
    rw [List.mem_singleton.mp hd]
  | cons round rounds ih =>
    intro d hd
    rcases List.mem_cons.mp hd with rfl | hd
    · rfl
    · rw [ih _ (fun other ho => h other (List.mem_cons_of_mem _ ho)) d hd,
        documents_select_round draft t (h round List.mem_cons_self)]

/-- No draft of a history has lost what the first one shows, if no edit replaces that. -/
theorem documents_history {rounds : List (List Edit)}
    (h : ∀ round ∈ rounds, ∀ e ∈ round, ¬ e.Shows draft.config.type) :
    ∀ d ∈ draft.history rounds,
      (d.select draft.config.type).documents t = draft.documents t :=
  documents_select_history draft t h

end Draft
end UsagePolicy
