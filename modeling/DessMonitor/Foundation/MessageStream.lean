import Mathlib.Data.List.Basic

/-!
# Messages that say where they end

A reader takes one message after the other off a stream until it meets an
error, as it does behind the last symbol.  A message that the reader finds
whenever all of it is there, and misses whenever a part of it is there, can be
sent back to back with others.

Readers are made of exact reads, which fail when the stream ends too early.
-/

namespace DessMonitor
namespace MessageStream

variable {Symbol Message Error : Type*}

/-! ## Exact reads -/

section ExactReads

variable (incomplete : List Symbol → ℕ → Error)

/-- `readexactly(count)` of a stream that ends behind these symbols;
`incomplete` is the error with what came and with `count`. -/
def readexactly (count : ℕ) (stream : List Symbol) :
    Except Error (List Symbol × List Symbol) :=
  if stream.length < count then .error (incomplete stream count)
  else .ok (stream.take count, stream.drop count)

variable {count : ℕ} {stream text rest : List Symbol}

theorem readexactly_of_lt (hshort : stream.length < count) :
    readexactly incomplete count stream = .error (incomplete stream count) := by
  unfold readexactly
  rw [if_pos hshort]

theorem readexactly_of_le (hlong : count ≤ stream.length) :
    readexactly incomplete count stream =
      .ok (stream.take count, stream.drop count) := by
  unfold readexactly
  rw [if_neg (by omega)]

theorem readexactly_append (hlength : text.length = count)
    (rest : List Symbol) :
    readexactly incomplete count (text ++ rest) = .ok (text, rest) := by
  subst hlength
  rw [readexactly_of_le _ (by simp), List.take_left, List.drop_left]

theorem readexactly_eq_ok
    (hread : readexactly incomplete count stream = .ok (text, rest)) :
    stream = text ++ rest ∧ text.length = count := by
  unfold readexactly at hread
  split at hread
  next => cases hread
  next hlong =>
    obtain ⟨rfl, rfl⟩ := Prod.mk.inj (Except.ok.inj hread)
    refine ⟨(List.take_append_drop count stream).symm, ?_⟩
    rw [List.length_take]
    omega

end ExactReads

/-! ## Readers -/

/-- How a reader takes the first message off a stream. -/
structure Reader (Symbol Message Error : Type*) where
  next : List Symbol → Except Error (Message × List Symbol)
  shrinks : ∀ {stream message rest}, next stream = .ok (message, rest) →
    rest.length < stream.length

namespace Reader

variable (reader : Reader Symbol Message Error)

/-- The messages of a stream and the error behind them. -/
def readAll (stream : List Symbol) : List Message × Error :=
  match _hnext : reader.next stream with
  | .error error => ([], error)
  | .ok (message, rest) =>
      let (messages, error) := readAll rest
      (message :: messages, error)
termination_by stream.length
decreasing_by exact reader.shrinks _hnext

theorem readAll_of_error {stream : List Symbol} {error : Error}
    (hnext : reader.next stream = .error error) :
    reader.readAll stream = ([], error) := by
  rw [readAll]
  split
  next other hother =>
    rw [hnext] at hother
    rw [Except.error.inj hother]
  next message rest hother =>
    rw [hnext] at hother
    cases hother

theorem readAll_of_ok {stream rest : List Symbol} {message : Message}
    (hnext : reader.next stream = .ok (message, rest)) :
    reader.readAll stream =
      (message :: (reader.readAll rest).1, (reader.readAll rest).2) := by
  rw [readAll]
  split
  next other hother =>
    rw [hnext] at hother
    cases hother
  next other more hother =>
    rw [hnext] at hother
    obtain ⟨rfl, rfl⟩ := Prod.mk.inj (Except.ok.inj hother)
    rfl

/-- The text is the whole message, and no part of it is enough.  `Ends error`
says that the error comes from the end of the stream. -/
structure Delimits (Ends : Error → Prop) (text : List Symbol)
    (message : Message) : Prop where
  whole : ∀ rest, reader.next (text ++ rest) = .ok (message, rest)
  part : ∀ part, part <+: text → part ≠ text →
    ∃ error, reader.next part = .error error ∧ Ends error

/-! ## Streams of messages -/

section Streams

variable {reader} {Ends : Error → Prop} {encode : Message → List Symbol}
  {messages : List Message}

/-- Messages sent back to back are read back, and then what follows. -/
theorem readAll_flatMap
    (hmessages : ∀ message ∈ messages,
      reader.Delimits Ends (encode message) message)
    (rest : List Symbol) :
    reader.readAll (messages.flatMap encode ++ rest) =
      (messages ++ (reader.readAll rest).1, (reader.readAll rest).2) := by
  induction messages with
  | nil => rfl
  | cons message messages ih =>
      have hhead := (hmessages message List.mem_cons_self).whole
        (messages.flatMap encode ++ rest)
      have htail := ih fun other hmem =>
        hmessages other (List.mem_cons_of_mem message hmem)
      rw [List.flatMap_cons, List.append_assoc,
        reader.readAll_of_ok hhead, htail]
      rfl

/-- What is read of a stream that was cut off. -/
structure CutOff (Ends : Error → Prop) (encode : Message → List Symbol)
    (messages : List Message) (part : List Symbol)
    (result : List Message × Error) : Prop where
  count_le : result.1.length ≤ messages.length
  messages_eq : result.1 = messages.take result.1.length
  wholly : ∀ count ≤ messages.length,
    (messages.take count).flatMap encode <+: part ↔
      count ≤ result.1.length
  ends : Ends result.2

theorem CutOff.nil {part : List Symbol} {error : Error} (hends : Ends error) :
    CutOff Ends encode [] part ([], error) where
  count_le := Nat.le_refl _
  messages_eq := rfl
  wholly := by
    intro count hcount
    rw [Nat.le_zero.mp hcount]
    exact ⟨fun _ => Nat.le_refl _, fun _ => List.nil_prefix⟩
  ends := hends

/-- The first message is not all there. -/
theorem CutOff.missing {message : Message} {part : List Symbol}
    {error : Error} (hmissing : ¬ encode message <+: part)
    (hends : Ends error) :
    CutOff Ends encode (message :: messages) part ([], error) where
  count_le := Nat.zero_le _
  messages_eq := rfl
  wholly := by
    intro count hcount
    cases count with
    | zero => exact ⟨fun _ => Nat.le_refl _, fun _ => List.nil_prefix⟩
    | succ count =>
        constructor
        · intro hpart
          rw [List.take_succ_cons, List.flatMap_cons] at hpart
          exact absurd ((List.prefix_append _ _).trans hpart) hmissing
        · intro hle
          exact absurd hle (by simp)
  ends := hends

theorem CutOff.cons {message : Message} {part : List Symbol}
    {result : List Message × Error}
    (hcut : CutOff Ends encode messages part result) :
    CutOff Ends encode (message :: messages) (encode message ++ part)
      (message :: result.1, result.2) where
  count_le := by
    simpa using hcut.count_le
  messages_eq := by
    simpa using hcut.messages_eq
  wholly := by
    intro count hcount
    cases count with
    | zero => exact ⟨fun _ => Nat.zero_le _, fun _ => List.nil_prefix⟩
    | succ count =>
        have hle : count ≤ messages.length := by
          simpa using hcount
        rw [List.take_succ_cons, List.flatMap_cons,
          List.prefix_append_right_inj, hcut.wholly count hle]
        simp
  ends := hcut.ends

/-- Of a stream that was cut off, the messages are read that are all there. -/
theorem readAll_part {part : List Symbol}
    (hmessages : ∀ message ∈ messages,
      reader.Delimits Ends (encode message) message)
    (hend : ∃ error, reader.next [] = .error error ∧ Ends error)
    (hpart : part <+: messages.flatMap encode) :
    CutOff Ends encode messages part (reader.readAll part) := by
  induction messages generalizing part with
  | nil =>
      obtain ⟨error, hnext, hends⟩ := hend
      rw [List.flatMap_nil, List.prefix_nil] at hpart
      subst hpart
      rw [reader.readAll_of_error hnext]
      exact .nil hends
  | cons message messages ih =>
      have hhead := hmessages message List.mem_cons_self
      by_cases hwhole : encode message <+: part
      · obtain ⟨rest, rfl⟩ := hwhole
        rw [List.flatMap_cons, List.prefix_append_right_inj] at hpart
        have htail := ih (fun other hmem =>
          hmessages other (List.mem_cons_of_mem message hmem)) hpart
        rw [reader.readAll_of_ok (hhead.whole rest)]
        exact htail.cons
      · rw [List.flatMap_cons] at hpart
        have hshort : part <+: encode message := by
          rcases List.prefix_or_prefix_of_prefix hpart
              (List.prefix_append (encode message) _) with hshort | hlong
          · exact hshort
          · exact absurd hlong hwhole
        have hne : part ≠ encode message := by
          rintro rfl
          exact hwhole List.prefix_rfl
        obtain ⟨error, hnext, hends⟩ := hhead.part part hshort hne
        rw [reader.readAll_of_error hnext]
        exact .missing hwhole hends

end Streams

end Reader

end MessageStream
end DessMonitor
