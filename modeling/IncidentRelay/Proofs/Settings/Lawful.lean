import IncidentRelay.Proofs.Settings.Section

/-!
# The sections of the settings are lawful

Each section lists its fields with their kinds. The fields are apart, since they have different
names and each is set without a change to the others, and each kind is lawful. From the inner
sections to the outer ones it follows that the settings as a whole are lawful: this is the module
that changes when a setting is added.

## Main statements

* `codec_lawful`: what is read from a document and shown again has the document's value at every
  setting that the document has, and the default at every other one.
-/

namespace IncidentRelay.Settings

open Codec

theorem pagingServices_lawful (d : PagingService) : pagingServices.Lawful d :=
  choice_lawful (by decide) d

theorem storeBackends_lawful (d : StoreBackend) : storeBackends.Lawful d :=
  choice_lawful (by decide) d

theorem logFormats_lawful (d : LogFormat) : logFormats.Lawful d :=
  choice_lawful (by decide) d

/-- The section of the server reads back what it wrote, and so do the other sections below. -/
theorem Server.codec_lawful : Server.codec.Lawful {} := by
  refine record_lawful ?_ ?_ (List.cons_ne_nil _ _) true
  · simp only [List.pairwise_cons, List.forall_mem_cons, List.not_mem_nil, false_imp_iff,
      implies_true, List.Pairwise.nil, and_true]
    and_intros <;> refine Field.apart_of ?_ (fun _ _ => rfl) (fun _ _ => rfl) <;> decide
  · simp only [List.forall_mem_cons, List.not_mem_nil, false_imp_iff, implies_true, and_true]
    exact ⟨Field.lawful_of (string_lawful _) fun _ _ => rfl,
      Field.lawful_of (natural_lawful (by decide)) fun _ _ => rfl,
      Field.lawful_of (string_lawful _) fun _ _ => rfl⟩

theorem SlackButton.codec_lawful : SlackButton.codec.Lawful {} := by
  refine record_lawful ?_ ?_ (List.cons_ne_nil _ _) false
  · simp only [List.pairwise_cons, List.forall_mem_cons, List.not_mem_nil, false_imp_iff,
      implies_true, List.Pairwise.nil, and_true]
    and_intros <;> refine Field.apart_of ?_ (fun _ _ => rfl) (fun _ _ => rfl) <;> decide
  · simp only [List.forall_mem_cons, List.not_mem_nil, false_imp_iff, implies_true, and_true]
    exact ⟨Field.lawful_of (flag_lawful _) fun _ _ => rfl,
      Field.lawful_of (string_lawful _) fun _ _ => rfl,
      Field.lawful_of (string_lawful _) fun _ _ => rfl⟩

theorem Slack.codec_lawful : Slack.codec.Lawful {} := by
  refine record_lawful ?_ ?_ (List.cons_ne_nil _ _) false
  · simp only [List.pairwise_cons, List.forall_mem_cons, List.not_mem_nil, false_imp_iff,
      implies_true, List.Pairwise.nil, and_true]
    and_intros <;> refine Field.apart_of ?_ (fun _ _ => rfl) (fun _ _ => rfl) <;> decide
  · simp only [List.forall_mem_cons, List.not_mem_nil, false_imp_iff, implies_true, and_true]
    exact ⟨Field.lawful_of (flag_lawful _) fun _ _ => rfl,
      Field.lawful_of (string_lawful _) fun _ _ => rfl,
      Field.lawful_of (string_lawful _) fun _ _ => rfl,
      Field.lawful_of (string_lawful _) fun _ _ => rfl,
      Field.lawful_of (string_lawful _) fun _ _ => rfl,
      Field.lawful_of SlackButton.codec_lawful fun _ _ => rfl⟩

theorem Telegram.codec_lawful : Telegram.codec.Lawful {} := by
  refine record_lawful ?_ ?_ (List.cons_ne_nil _ _) false
  · simp only [List.pairwise_cons, List.forall_mem_cons, List.not_mem_nil, false_imp_iff,
      implies_true, List.Pairwise.nil, and_true]
    and_intros <;> refine Field.apart_of ?_ (fun _ _ => rfl) (fun _ _ => rfl) <;> decide
  · simp only [List.forall_mem_cons, List.not_mem_nil, false_imp_iff, implies_true, and_true]
    exact ⟨Field.lawful_of (flag_lawful _) fun _ _ => rfl,
      Field.lawful_of (string_lawful _) fun _ _ => rfl,
      Field.lawful_of (string_lawful _) fun _ _ => rfl,
      Field.lawful_of (string_lawful _) fun _ _ => rfl,
      Field.lawful_of (string_lawful _) fun _ _ => rfl⟩

theorem Email.codec_lawful : Email.codec.Lawful {} := by
  refine record_lawful ?_ ?_ (List.cons_ne_nil _ _) false
  · simp only [List.pairwise_cons, List.forall_mem_cons, List.not_mem_nil, false_imp_iff,
      implies_true, List.Pairwise.nil, and_true]
    and_intros <;> refine Field.apart_of ?_ (fun _ _ => rfl) (fun _ _ => rfl) <;> decide
  · simp only [List.forall_mem_cons, List.not_mem_nil, false_imp_iff, implies_true, and_true]
    exact ⟨Field.lawful_of (flag_lawful _) fun _ _ => rfl,
      Field.lawful_of (string_lawful _) fun _ _ => rfl,
      Field.lawful_of (natural_lawful (by decide)) fun _ _ => rfl,
      Field.lawful_of (string_lawful _) fun _ _ => rfl,
      Field.lawful_of (string_lawful _) fun _ _ => rfl,
      Field.lawful_of (string_lawful _) fun _ _ => rfl,
      Field.lawful_of (string_lawful _) fun _ _ => rfl,
      Field.lawful_of (string_lawful _) fun _ _ => rfl⟩

theorem Teams.codec_lawful : Teams.codec.Lawful {} := by
  refine record_lawful ?_ ?_ (List.cons_ne_nil _ _) false
  · simp only [List.pairwise_cons, List.forall_mem_cons, List.not_mem_nil, false_imp_iff,
      implies_true, List.Pairwise.nil, and_true]
    and_intros <;> refine Field.apart_of ?_ (fun _ _ => rfl) (fun _ _ => rfl) <;> decide
  · simp only [List.forall_mem_cons, List.not_mem_nil, false_imp_iff, implies_true, and_true]
    exact ⟨Field.lawful_of (flag_lawful _) fun _ _ => rfl,
      Field.lawful_of (string_lawful _) fun _ _ => rfl,
      Field.lawful_of (string_lawful _) fun _ _ => rfl,
      Field.lawful_of texts_lawful fun _ _ => rfl⟩

theorem Lark.codec_lawful : Lark.codec.Lawful {} := by
  refine record_lawful ?_ ?_ (List.cons_ne_nil _ _) false
  · simp only [List.pairwise_cons, List.forall_mem_cons, List.not_mem_nil, false_imp_iff,
      implies_true, List.Pairwise.nil, and_true]
    and_intros <;> refine Field.apart_of ?_ (fun _ _ => rfl) (fun _ _ => rfl) <;> decide
  · simp only [List.forall_mem_cons, List.not_mem_nil, false_imp_iff, implies_true, and_true]
    exact ⟨Field.lawful_of (flag_lawful _) fun _ _ => rfl,
      Field.lawful_of (string_lawful _) fun _ _ => rfl,
      Field.lawful_of (string_lawful _) fun _ _ => rfl⟩

theorem Alert.codec_lawful : Alert.codec.Lawful {} := by
  refine record_lawful ?_ ?_ (List.cons_ne_nil _ _) false
  · simp only [List.pairwise_cons, List.forall_mem_cons, List.not_mem_nil, false_imp_iff,
      implies_true, List.Pairwise.nil, and_true]
    and_intros <;> refine Field.apart_of ?_ (fun _ _ => rfl) (fun _ _ => rfl) <;> decide
  · simp only [List.forall_mem_cons, List.not_mem_nil, false_imp_iff, implies_true, and_true]
    exact ⟨Field.lawful_of (flag_lawful _) fun _ _ => rfl,
      Field.lawful_of Slack.codec_lawful fun _ _ => rfl,
      Field.lawful_of Telegram.codec_lawful fun _ _ => rfl,
      Field.lawful_of Email.codec_lawful fun _ _ => rfl,
      Field.lawful_of Teams.codec_lawful fun _ _ => rfl,
      Field.lawful_of Lark.codec_lawful fun _ _ => rfl⟩

theorem IncidentManager.codec_lawful : IncidentManager.codec.Lawful {} := by
  refine record_lawful ?_ ?_ (List.cons_ne_nil _ _) false
  · exact List.pairwise_singleton _ _
  · exact List.forall_mem_singleton.mpr (Field.lawful_of (string_lawful _) fun _ _ => rfl)

theorem PagerDuty.codec_lawful : PagerDuty.codec.Lawful {} := by
  refine record_lawful ?_ ?_ (List.cons_ne_nil _ _) false
  · simp only [List.pairwise_cons, List.forall_mem_cons, List.not_mem_nil, false_imp_iff,
      implies_true, List.Pairwise.nil, and_true]
    exact Field.apart_of (by decide) (fun _ _ => rfl) (fun _ _ => rfl)
  · simp only [List.forall_mem_cons, List.not_mem_nil, false_imp_iff, implies_true, and_true]
    exact ⟨Field.lawful_of (string_lawful _) fun _ _ => rfl,
      Field.lawful_of (string_lawful _) fun _ _ => rfl⟩

theorem OnCall.codec_lawful : OnCall.codec.Lawful {} := by
  refine record_lawful ?_ ?_ (List.cons_ne_nil _ _) false
  · simp only [List.pairwise_cons, List.forall_mem_cons, List.not_mem_nil, false_imp_iff,
      implies_true, List.Pairwise.nil, and_true]
    and_intros <;> refine Field.apart_of ?_ (fun _ _ => rfl) (fun _ _ => rfl) <;> decide
  · simp only [List.forall_mem_cons, List.not_mem_nil, false_imp_iff, implies_true, and_true]
    exact ⟨Field.lawful_of (flag_lawful _) fun _ _ => rfl,
      Field.lawful_of (flag_lawful _) fun _ _ => rfl,
      Field.lawful_of (natural_lawful (by decide)) fun _ _ => rfl,
      Field.lawful_of (pagingServices_lawful _) fun _ _ => rfl,
      Field.lawful_of IncidentManager.codec_lawful fun _ _ => rfl,
      Field.lawful_of PagerDuty.codec_lawful fun _ _ => rfl⟩

theorem Redis.codec_lawful : Redis.codec.Lawful {} := by
  refine record_lawful ?_ ?_ (List.cons_ne_nil _ _) false
  · simp only [List.pairwise_cons, List.forall_mem_cons, List.not_mem_nil, false_imp_iff,
      implies_true, List.Pairwise.nil, and_true]
    and_intros <;> refine Field.apart_of ?_ (fun _ _ => rfl) (fun _ _ => rfl) <;> decide
  · simp only [List.forall_mem_cons, List.not_mem_nil, false_imp_iff, implies_true, and_true]
    exact ⟨Field.lawful_of (string_lawful _) fun _ _ => rfl,
      Field.lawful_of (natural_lawful (by decide)) fun _ _ => rfl,
      Field.lawful_of (optionalText_lawful _) fun _ _ => rfl,
      Field.lawful_of (integer_lawful (by decide) (by decide)) fun _ _ => rfl,
      Field.lawful_of (flag_lawful _) fun _ _ => rfl,
      Field.lawful_of (flag_lawful _) fun _ _ => rfl⟩

theorem Store.codec_lawful : Store.codec.Lawful {} := by
  refine record_lawful ?_ ?_ (List.cons_ne_nil _ _) false
  · simp only [List.pairwise_cons, List.forall_mem_cons, List.not_mem_nil, false_imp_iff,
      implies_true, List.Pairwise.nil, and_true]
    exact Field.apart_of (by decide) (fun _ _ => rfl) (fun _ _ => rfl)
  · simp only [List.forall_mem_cons, List.not_mem_nil, false_imp_iff, implies_true, and_true]
    exact ⟨Field.lawful_of (storeBackends_lawful _) fun _ _ => rfl,
      Field.lawful_of Redis.codec_lawful fun _ _ => rfl⟩

theorem Metrics.codec_lawful : Metrics.codec.Lawful {} := by
  refine record_lawful ?_ ?_ (List.cons_ne_nil _ _) false
  · exact List.pairwise_singleton _ _
  · exact List.forall_mem_singleton.mpr (Field.lawful_of (flag_lawful _) fun _ _ => rfl)

theorem codec_lawful : codec.Lawful {} := by
  refine record_lawful ?_ ?_ (List.cons_ne_nil _ _) true
  · simp only [List.pairwise_cons, List.forall_mem_cons, List.not_mem_nil, false_imp_iff,
      implies_true, List.Pairwise.nil, and_true]
    and_intros <;> refine Field.apart_of ?_ (fun _ _ => rfl) (fun _ _ => rfl) <;> decide
  · simp only [List.forall_mem_cons, List.not_mem_nil, false_imp_iff, implies_true, and_true]
    exact ⟨Field.lawful_of (string_lawful _) fun _ _ => rfl,
      Field.lawful_of (string_lawful _) fun _ _ => rfl,
      Field.lawful_of (logFormats_lawful _) fun _ _ => rfl,
      Field.lawful_of Server.codec_lawful fun _ _ => rfl,
      Field.lawful_of Alert.codec_lawful fun _ _ => rfl,
      Field.lawful_of OnCall.codec_lawful fun _ _ => rfl,
      Field.lawful_of Store.codec_lawful fun _ _ => rfl,
      Field.lawful_of Metrics.codec_lawful fun _ _ => rfl⟩

end IncidentRelay.Settings
