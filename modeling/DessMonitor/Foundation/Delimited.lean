import Mathlib.Data.List.TakeWhile
import Mathlib.Data.List.Flatten

/-!
# Delimited messages in a stream

A receiver gets a stream in chunks, keeps what came in a buffer and takes the
message off once the buffer has a delimiter.  The message does not depend on
where the stream was cut.
-/

namespace DessMonitor
namespace Delimited

variable {α : Type*} [DecidableEq α] {delimiter : α}
  {message rest : List α}

/-! ## The message before a delimiter -/

/-- What comes before the first delimiter, or everything. -/
def body (delimiter : α) (stream : List α) : List α :=
  stream.takeWhile (· ≠ delimiter)

theorem body_of_notMem (hclean : delimiter ∉ message) :
    body delimiter message = message := by
  unfold body
  rw [List.takeWhile_eq_self_iff]
  intro item hitem
  have hne : item ≠ delimiter := by
    rintro rfl
    exact hclean hitem
  simpa using hne

/-- What follows the first delimiter is not looked at. -/
theorem body_append_of_mem (hmem : delimiter ∈ message) :
    body delimiter (message ++ rest) = body delimiter message := by
  induction message with
  | nil =>
      cases hmem
  | cons item message ih =>
      unfold body at ih ⊢
      by_cases hitem : item = delimiter
      · subst hitem
        simp
      · have htail : delimiter ∈ message := by
          cases hmem with
          | head => exact absurd rfl hitem
          | tail _ htail => exact htail
        simpa [hitem] using ih htail

theorem body_append_cons (hclean : delimiter ∉ message) :
    body delimiter (message ++ delimiter :: rest) = message := by
  have hself := body_of_notMem hclean
  unfold body at hself ⊢
  rw [List.takeWhile_append, hself]
  simp

theorem body_append_of_notMem (hclean : delimiter ∉ message) :
    body delimiter (message ++ rest) = message ++ body delimiter rest := by
  have hself := body_of_notMem hclean
  unfold body at hself ⊢
  rw [List.takeWhile_append, hself, if_pos rfl]

theorem delimiter_notMem_body (delimiter : α) (stream : List α) :
    delimiter ∉ body delimiter stream := by
  intro hmem
  have hkept := List.mem_takeWhile_imp hmem
  simp at hkept

/-! ## The receiver -/

/-- The first message that a receiver with this buffer takes off, when there
is one among the chunks. -/
def firstMessage (delimiter : α) (buffer : List α) :
    List (List α) → Option (List α)
  | [] => none
  | chunk :: chunks =>
      if delimiter ∈ buffer ++ chunk then
        some (body delimiter (buffer ++ chunk))
      else
        firstMessage delimiter (buffer ++ chunk) chunks

/-- However the stream is cut, the message is what comes before its first
delimiter. -/
theorem firstMessage_eq_body {buffer : List α} {chunks : List (List α)}
    (hbuffer : delimiter ∉ buffer)
    (hstream : delimiter ∈ buffer ++ chunks.flatten) :
    firstMessage delimiter buffer chunks =
      some (body delimiter (buffer ++ chunks.flatten)) := by
  induction chunks generalizing buffer with
  | nil =>
      rw [List.flatten_nil, List.append_nil] at hstream
      exact absurd hstream hbuffer
  | cons chunk chunks ih =>
      rw [List.flatten_cons, ← List.append_assoc] at hstream ⊢
      unfold firstMessage
      by_cases hmem : delimiter ∈ buffer ++ chunk
      · rw [if_pos hmem, body_append_of_mem hmem]
      · rw [if_neg hmem]
        exact ih hmem hstream

end Delimited
end DessMonitor
