import Mathlib.Algebra.GroupWithZero.Nat
import Mathlib.Data.List.Forall2
import RateLimit.Proofs.Reply.Recognition

/-!
# Streams that arrive in pieces

Replies are read off a stream as it arrives, piece by piece, and a piece may end anywhere.  All that
is found in the end is what would be found if the stream arrived at once: the replies, why there are
no more, and the bytes that are left.

## Main definitions

* `Reader.Drained.then` : what two buffers come to, one after the other.
* `Reader.feedAll` : what the pieces of a stream come to.
* `Reader.Yields` : replies stand one after the other at the front of a byte string.
* `Reader.Stop.front` : what stands at the front of the bytes that are left.

## Main results

* `Reader.drain_append` : a buffer may be read before the rest of it has arrived.
* `Reader.front_of_replies_drain`, `Reader.left_drain`, `Reader.front_left_drain` : where the
  replies of a buffer stand, and what is behind them.
* `Reader.feedAll_eq_drain` : the pieces of a stream come to what the stream comes to.
* `Reader.front_feed_of_cut` : what is found does not depend on how a stream is cut.
-/

namespace RateLimit.Reader

/-- What a reader takes off two buffers one after the other, of which the second begins with what is
left of the first. -/
def Drained.then (first second : Drained) : Drained :=
  { second with replies := first.replies ++ second.replies }

/-- What a reader takes off all the pieces of a stream. -/
def feedAll (r : Reader) (pieces : List Bytes) : Drained :=
  (r.feed [] pieces).foldl Drained.then ⟨[], .needMore, [], r⟩

variable {r : Reader} {buffer rest : Bytes} {reply : Reply} {fault : ProtocolFault}

/-! ### Buffers -/

theorem drain_of_needMore (h : (r.read buffer).1 = .needMore) :
    r.drain buffer = ⟨[], .needMore, buffer, r⟩ := by
  have hr := r.read_snd buffer
  rw [drain]
  split <;> (rename_i heq; rw [heq] at h hr; cases h)
  obtain rfl : _ = r := hr
  rfl

theorem drain_of_invalid (h : (r.read buffer).1 = .invalid fault) :
    r.drain buffer = ⟨[], .invalid fault, buffer, r⟩ := by
  have hr := r.read_snd buffer
  rw [drain]
  split <;> (rename_i heq; rw [heq] at h hr; cases h)
  obtain rfl : _ = r := hr
  rfl

theorem drain_of_complete (h : (r.read buffer).1 = .complete reply rest) :
    r.drain buffer =
      { r.drain rest with
        replies := (reply, buffer.length - rest.length) :: (r.drain rest).replies } := by
  have hr := r.read_snd buffer
  rw [drain]
  split <;> (rename_i heq; rw [heq] at h hr; cases h)
  obtain rfl : _ = r := hr
  rfl

/-- A reader stands where it stood after all the replies of a buffer. -/
theorem reader_drain (r : Reader) (buffer : Bytes) : (r.drain buffer).reader = r := by
  fun_induction drain r buffer with
  | case1 r buffer r' hread =>
      have hr := r.read_snd buffer
      rwa [hread] at hr
  | case2 r buffer fault r' hread =>
      have hr := r.read_snd buffer
      rwa [hread] at hr
  | case3 r buffer reply rest r' hread later ih =>
      have hr := r.read_snd buffer
      rw [hread] at hr
      exact ih.trans hr

/-- A buffer may be read before the rest of it has arrived: what is left is read on together with
the further bytes. -/
theorem drain_append (r : Reader) (buffer more : Bytes) :
    r.drain (buffer ++ more) = (r.drain buffer).then (r.drain ((r.drain buffer).left ++ more)) := by
  fun_induction drain r buffer with
  | case1 r buffer r' hread => rfl
  | case2 r buffer fault r' hread =>
      have hmore : (r.read (buffer ++ more)).1 = .invalid fault := by
        rw [settles_read r buffer (by simp [hread]), hread]
        rfl
      rw [drain_of_invalid hmore]
      rfl
  | case3 r buffer reply rest r' hread later ih =>
      have hr := r.read_snd buffer
      rw [hread] at hr
      obtain rfl : r' = r := hr
      have hmore : (r'.read (buffer ++ more)).1 = .complete reply (rest ++ more) := by
        rw [settles_read r' buffer (by simp [hread]), hread]
        rfl
      rw [drain_of_complete hmore, ih, List.length_append, List.length_append,
        Nat.add_sub_add_right]
      rfl

/-! ### Some of the replies -/

/-- Replies stand one after the other at the front of a byte string, and the rest is behind them. -/
inductive Yields (r : Reader) : Bytes → List Reply → Bytes → Prop
  | nil (rest : Bytes) : Yields r rest [] rest
  | cons {buffer behind rest : Bytes} {reply : Reply} {replies : List Reply}
      (h : (r.read buffer).1 = .complete reply behind) (later : Yields r behind replies rest) :
      Yields r buffer (reply :: replies) rest

namespace Yields

variable {behind : Bytes} {replies replies' : List Reply}

theorem trans (h : r.Yields buffer replies behind) (h' : r.Yields behind replies' rest) :
    r.Yields buffer (replies ++ replies') rest := by
  induction h with
  | nil => exact h'
  | cons hread _ ih => exact .cons hread (ih h')

/-- All the replies of a buffer stand one after the other at its front. -/
theorem drain (r : Reader) (buffer : Bytes) :
    r.Yields buffer ((r.drain buffer).replies.map Prod.fst) (r.drain buffer).left := by
  fun_induction Reader.drain r buffer with
  | case1 | case2 => exact .nil _
  | case3 r buffer reply rest r' hread later ih =>
      have hr := r.read_snd buffer
      rw [hread] at hr
      obtain rfl : r' = r := hr
      exact .cons (congrArg Prod.fst hread) ih

/-- Replies are still found, and what is behind them, if further bytes follow. -/
theorem append (h : r.Yields buffer replies rest) (more : Bytes) :
    r.Yields (buffer ++ more) replies (rest ++ more) := by
  induction h with
  | nil rest => exact .nil _
  | @cons buffer behind rest reply replies hread _ ih =>
      have hmore : (r.read (buffer ++ more)).1 = .complete reply (behind ++ more) := by
        rw [settles_read r buffer (by simp [hread]), hread]
        rfl
      exact .cons hmore ih

/-- All the replies of a buffer are the first of them, and those of the rest. -/
theorem replies_drain (h : r.Yields buffer replies rest) :
    (r.drain buffer).replies.map Prod.fst =
      replies ++ (r.drain rest).replies.map Prod.fst := by
  induction h with
  | nil => rfl
  | cons hread _ ih =>
      rw [drain_of_complete hread, List.map_cons, ih]
      rfl

/-- The replies are spelled by the bytes that stand before the rest. -/
theorem exists_words (h : r.Yields buffer replies rest) :
    ∃ words, List.Forall₂ (Reply.Spells (maxDepth - r.depth)) words replies ∧
      buffer = words.flatten ++ rest := by
  induction h with
  | nil rest => exact ⟨[], .nil, rfl⟩
  | @cons buffer behind rest reply replies hread _ ih =>
      obtain ⟨words, hwords, rfl⟩ := ih
      obtain ⟨word, rfl, hword⟩ := spells_of_readWithin (Prod.ext hread (r.read_snd _))
      exact ⟨word :: words, .cons hword hwords, by rw [List.flatten_cons, List.append_assoc]⟩

end Yields

/-! ### What stands at the front -/

/-- What stands at the front of the bytes that are left where a reader stops. -/
def Stop.front : Stop → Except ProtocolFault (Option (Reply × Nat))
  | .needMore => .ok none
  | .invalid fault => .error fault

theorem drop_of_complete (h : (r.read buffer).1 = .complete reply rest) :
    buffer.drop (buffer.length - rest.length) = rest := by
  obtain ⟨words, -, rfl⟩ := (Yields.cons h (.nil rest)).exists_words
  rw [List.length_append, Nat.add_sub_cancel, List.drop_left]

/-- Each reply that is taken off a buffer stands at the front of it behind those before. -/
theorem front_of_replies_drain {before after : List (Reply × Nat)} {n : Nat}
    (h : (r.drain buffer).replies = before ++ (reply, n) :: after) :
    r.front (buffer.drop (before.map Prod.snd).sum) = .ok (some (reply, n)) := by
  fun_induction drain r buffer generalizing before with
  | case1 | case2 => simp at h
  | case3 r buffer first rest r' hread later =>
      rename_i ih
      have hr := r.read_snd buffer
      rw [hread] at hr
      obtain rfl : r' = r := hr
      cases before with
      | nil =>
          obtain ⟨heq, -⟩ := List.cons.inj h
          cases heq
          exact front_eq_some_iff.2 ⟨rest, congrArg Prod.fst hread, rfl⟩
      | cons found before =>
          obtain ⟨rfl, hlater⟩ := List.cons.inj h
          rw [List.map_cons, List.sum_cons, ← List.drop_drop,
            drop_of_complete (congrArg Prod.fst hread)]
          exact ih hlater

/-- What is left of a buffer stands behind all its replies. -/
theorem left_drain (r : Reader) (buffer : Bytes) :
    (r.drain buffer).left = buffer.drop ((r.drain buffer).replies.map Prod.snd).sum := by
  fun_induction drain r buffer with
  | case1 | case2 => rfl
  | case3 r buffer reply rest r' hread later ih =>
      rw [List.map_cons, List.sum_cons, ← List.drop_drop,
        drop_of_complete (congrArg Prod.fst hread)]
      exact ih

/-- Nothing that is left of a buffer stands before a further reply, or it is refused. -/
theorem front_left_drain (r : Reader) (buffer : Bytes) :
    r.front (r.drain buffer).left = (r.drain buffer).stop.front := by
  fun_induction drain r buffer with
  | case1 r buffer r' hread => rw [front, hread]; rfl
  | case2 r buffer fault r' hread => rw [front, hread]; rfl
  | case3 r buffer reply rest r' hread later ih =>
      have hr := r.read_snd buffer
      rw [hread] at hr
      obtain rfl : r' = r := hr
      exact ih

/-! ### Pieces -/

/-- The pieces that arrive behind a buffer come, together with the buffer, to what all its bytes
come to. -/
theorem foldl_feed_drain (r : Reader) (buffer : Bytes) (pieces : List Bytes) :
    (r.feed (r.drain buffer).left pieces).foldl Drained.then (r.drain buffer) =
      r.drain (buffer ++ pieces.flatten) := by
  induction pieces generalizing buffer with
  | nil => rw [feed, List.foldl_nil, List.flatten_nil, List.append_nil]
  | cons piece pieces ih =>
      have hpiece := r.drain_append buffer piece
      have hleft : (r.drain (buffer ++ piece)).left =
          (r.drain ((r.drain buffer).left ++ piece)).left := by
        rw [hpiece]
        rfl
      rw [feed, List.foldl_cons, ← hpiece, reader_drain, ← hleft, ih, List.flatten_cons,
        List.append_assoc]

/-- The pieces of a stream come to what the whole stream comes to. -/
theorem feedAll_eq_drain (r : Reader) (pieces : List Bytes) :
    r.feedAll pieces = r.drain pieces.flatten := by
  have hnil : r.drain [] = ⟨[], .needMore, [], r⟩ := by
    refine drain_of_needMore ?_
    rw [read]
    cases maxDepth - r.depth <;> rfl
  have hfold := r.foldl_feed_drain [] pieces
  rw [hnil] at hfold
  exact hfold

/-- **What is found does not depend on how a stream is cut.** Where a reply stands at the front of a
byte string, it is found with any further bytes behind it and not before all of its bytes have
arrived; what is refused stays refused for the same reason.  So two ways to cut a stream into pieces
come to the same replies, each of the same length, to the same end of reading, and to the same bytes
that are left.  These are the replies that stand on the stream one after the other: each at the
front of it behind those before, and behind the last of them the bytes that are left, at the front
of which stands nothing yet, or what is refused. -/
theorem front_feed_of_cut (r : Reader) :
    (∀ input reply n, r.front input = .ok (some (reply, n)) →
      (∀ before, before <+: input.take n → before ≠ input.take n → r.front before = .ok none) ∧
        ∀ more, r.front (input ++ more) = .ok (some (reply, n))) ∧
    (∀ input fault, r.front input = .error fault →
      ∀ more, r.front (input ++ more) = .error fault) ∧
    (∀ pieces pieces' : List Bytes, pieces.flatten = pieces'.flatten →
      r.feedAll pieces = r.feedAll pieces') ∧
    ∀ pieces : List Bytes,
      let stream := pieces.flatten
      let found := r.feedAll pieces
      (∀ before reply n after, found.replies = before ++ (reply, n) :: after →
        r.front (stream.drop (before.map Prod.snd).sum) = .ok (some (reply, n))) ∧
      found.left = stream.drop (found.replies.map Prod.snd).sum ∧
      r.front found.left = found.stop.front ∧
      r.Yields stream (found.replies.map Prod.fst) found.left ∧ found.reader = r := by
  refine ⟨fun input reply n h => ⟨fun before hbefore hne => ?_, front_append_of_complete h⟩,
    fun input fault h => front_append_of_invalid h, fun pieces pieces' h => ?_, fun pieces => ?_⟩
  · have htake : input.take n <+: input := List.take_prefix n input
    obtain ⟨later, hlater⟩ := hbefore.trans htake
    have hle := hbefore.length_le
    have hlt : before.length ≠ (input.take n).length := fun heq => hne (hbefore.eq_of_length heq)
    rw [List.length_take] at hle hlt
    exact front_eq_none_of_append (hlater ▸ h) (by omega)
  · rw [feedAll_eq_drain, feedAll_eq_drain, h]
  · rw [feedAll_eq_drain]
    exact ⟨fun before reply n after => front_of_replies_drain, r.left_drain _,
      r.front_left_drain _, .drain r _, r.reader_drain _⟩

end RateLimit.Reader
