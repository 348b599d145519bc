/-
**Messages without repetitions.**

A report keeps the messages that it holds and adds what is new to it, each message once.

* `foldl_addMessage_eq`: what several messages add to a report.
* `mem_foldl_addMessage`: it holds what it held and what was added.
* `foldl_addMessage`: messages that differ from each other and from those that are there are all
  added.
-/

import TestOutline.Metadata.Scan

namespace TestOutline

/-- **What messages add to a report**: those that it does not hold, each at its first coming. -/
theorem foldl_addMessage_eq (messages others : List Text) :
    others.foldl addMessage messages =
      messages ++ (others.filter fun message => !messages.contains message).eraseDups := by
  induction others generalizing messages with
  | nil => simp
  | cons message rest ih =>
    rw [List.foldl_cons, addMessage]
    cases known : messages.contains message with
    | true => rw [if_pos rfl, ih,
        List.filter_cons_of_neg (by simpa using List.contains_iff_mem.mp known)]
    | false =>
      rw [if_neg Bool.false_ne_true, ih, List.filter_cons_of_pos (by simpa using known),
        List.eraseDups_cons, List.filter_filter, ← List.append_cons]
      congr 3
      refine List.filter_congr fun other _ => ?_
      simp only [List.contains_append, List.contains_cons, List.contains_nil, Bool.or_false,
        Bool.not_or, Bool.and_comm]

/-- No message is lost, and none comes up. -/
theorem mem_foldl_addMessage {messages others : List Text} {message : Text} :
    message ∈ others.foldl addMessage messages ↔ message ∈ messages ∨ message ∈ others := by
  rw [foldl_addMessage_eq, List.mem_append, List.mem_eraseDups, List.mem_filter, Bool.not_eq_true',
    ← Bool.not_eq_true, List.contains_iff_mem]
  by_cases known : message ∈ messages
  · simp [known]
  · simp [known]

/-- Messages that differ from each other are all kept. -/
theorem foldl_addMessage (messages : List Text) {others : List Text}
    (nodup : (messages ++ others).Nodup) :
    others.foldl addMessage messages = messages ++ others := by
  induction others generalizing messages with
  | nil => rw [List.append_nil, List.foldl_nil]
  | cons message rest ih =>
    have fresh : messages.contains message = false := by
      rw [← Bool.not_eq_true, List.contains_iff_mem]
      exact fun member =>
        (List.nodup_append.mp nodup).2.2 message member message List.mem_cons_self rfl
    rw [List.append_cons] at nodup
    rw [List.foldl_cons, addMessage, fresh, if_neg Bool.false_ne_true, ih _ nodup,
      ← List.append_cons]

end TestOutline
