import RowSchema.Proofs.Json.ReadBack
import RowSchema.Proofs.Protocol.Framing

/-!
# What the tool reads

The tool at the other end reads each line of the standard error as JSON, and finds in it the reply
that has been written there. All that a reply takes over from its line is the identifier, and that
has been read itself: it is read back unless it holds a float that is not.

## Main definitions

* `Json.Number.FloatReadsBack` — a float that is read back from its text

## Main results

* `Protocol.legible_id_of_ofLine` — the identifier of a request has been read
* `Protocol.read_stderr` — the lines of the standard error are read back as the replies
-/

namespace RowSchema

namespace Json.Number

/-- A float is read back from its text. Nothing is asked of an integer. -/
def FloatReadsBack (n : Number) : Prop :=
  ∀ x, n = .float x → n.ReadsBack

theorem readsBack_of_fits {n : Number} (h : n.Fits) (hfloat : n.FloatReadsBack) : n.ReadsBack := by
  cases n with
  | int => exact readsBack_int h
  | float x => exact hfloat x rfl

end Json.Number

namespace Protocol

open Json

/-! ### Identifiers -/

section Identifiers

variable {cs : List Char}

theorem legible_of_readAny {j : Json} {r : Shorter cs} (h : readAny cs = .ok (j, r)) :
    j.Legible Number.Fits (maxDepth - 1) := by
  obtain ⟨⟨k, q⟩, hk, h⟩ := bind_eq_ok_iff.1 h
  obtain ⟨rfl, rfl⟩ := Prod.mk.inj (Except.ok.inj h)
  exact (legible_of_readValue (syntactic_eq_ok_iff.1 hk)).value

/-- The identifier in a draft, if there is one, has been read. -/
def Draft.HasReadId (d : Draft) : Prop :=
  ∀ j ∈ d.id, j.Legible Number.Fits (maxDepth - 1)

theorem hasReadId_of_readField {d d' : Draft} {key : String} {r : Shorter cs} (hd : d.HasReadId)
    (h : readField d key cs = .ok (d', r)) : d'.HasReadId := by
  unfold readField at h
  split at h
  next =>
    obtain ⟨⟨name, t⟩, -, h⟩ := bind_eq_ok_iff.1 h
    obtain ⟨rfl, rfl⟩ := Prod.mk.inj (Except.ok.inj h)
    exact hd
  next =>
    obtain ⟨⟨k, t⟩, -, h⟩ := bind_eq_ok_iff.1 h
    obtain ⟨rfl, rfl⟩ := Prod.mk.inj (Except.ok.inj h)
    exact hd
  next =>
    obtain ⟨⟨k, t⟩, hk, h⟩ := bind_eq_ok_iff.1 h
    obtain ⟨rfl, rfl⟩ := Prod.mk.inj (Except.ok.inj h)
    rintro j ⟨⟩
    exact legible_of_readAny hk
  next =>
    obtain ⟨t, -, h⟩ := bind_eq_ok_iff.1 h
    obtain ⟨rfl, rfl⟩ := Prod.mk.inj (Except.ok.inj h)
    exact hd

theorem hasReadId_of_readMembers {d d' : Draft} {key : String} {r : Shorter cs} (hd : d.HasReadId)
    (h : readMembers d key cs = .ok (d', r)) : d'.HasReadId := by
  induction d, key, cs using readMembers.induct with
  | case1 d key cs hdup =>
    rw [readMembers, if_pos hdup] at h
    exact absurd h (throw_bind_ne_ok _ _ _)
  | case2 d key cs hnew ih =>
    rw [readMembers, if_neg hnew] at h
    obtain ⟨r₁, -, h⟩ := bind_eq_ok_iff.1 h
    obtain ⟨⟨d₁, r₂⟩, hfield, h⟩ := bind_eq_ok_iff.1 h
    obtain ⟨⟨more, r₃⟩, -, h⟩ := bind_eq_ok_iff.1 h
    have hd₁ := hasReadId_of_readField hd hfield
    cases more with
    | false =>
      obtain ⟨rfl, rfl⟩ := Prod.mk.inj (Except.ok.inj h)
      exact hd₁
    | true =>
      obtain ⟨⟨next, r₄⟩, -, h⟩ := bind_eq_ok_iff.1 h
      obtain ⟨⟨d₂, r₅⟩, hrest, h⟩ := bind_eq_ok_iff.1 h
      obtain ⟨rfl, rfl⟩ := Prod.mk.inj (Except.ok.inj h)
      exact ih r₁ d₁ r₂ r₃ next r₄ hd₁ hrest

theorem legible_of_readObject {request : Request} {r : Shorter cs}
    (h : readObject cs = .ok (request, r)) :
    request.id.Legible Number.Fits (maxDepth - 1) := by
  have hrequest : ∀ {d : Draft} {rest : List Char}, d.HasReadId →
      d.request rest = .ok request → request.id.Legible Number.Fits (maxDepth - 1) := by
    intro d rest hd hd'
    unfold Draft.request at hd'
    split at hd'
    next =>
      obtain rfl := Except.ok.inj hd'
      cases hid : d.id with
      | none => exact .null
      | some j => exact hd j hid
    next => simp at hd'
  have hempty : Draft.HasReadId {} := nofun
  unfold readObject at h
  split at h
  next => simp at h
  next c rest hcs =>
    split_ifs at h
    · obtain ⟨request', hrequest', h⟩ := bind_eq_ok_iff.1 h
      obtain ⟨rfl, rfl⟩ := Prod.mk.inj (Except.ok.inj h)
      exact hrequest hempty hrequest'
    · obtain ⟨⟨key, r₁⟩, -, h⟩ := bind_eq_ok_iff.1 h
      obtain ⟨⟨d, r₂⟩, hd, h⟩ := bind_eq_ok_iff.1 h
      obtain ⟨request', hrequest', h⟩ := bind_eq_ok_iff.1 h
      obtain ⟨rfl, rfl⟩ := Prod.mk.inj (Except.ok.inj h)
      exact hrequest (hasReadId_of_readMembers hempty hd) hrequest'

theorem legible_of_readItem {j : Json} {r : Remainder cs} (h : readItem cs = .ok (j, r)) :
    j.Legible Number.Fits (maxDepth - 1) := by
  unfold readItem at h
  split at h
  next => simp at h
  next c rest hcs =>
    split_ifs at h
    · obtain ⟨rfl, rfl⟩ := Prod.mk.inj (Except.ok.inj h)
      exact .null
    · obtain ⟨⟨k, t⟩, hk, h⟩ := bind_eq_ok_iff.1 h
      obtain ⟨rfl, rfl⟩ := Prod.mk.inj (Except.ok.inj h)
      exact legible_of_readAny hk

theorem legible_of_readArray {request : Request} {r : Shorter cs}
    (h : readArray cs = .ok (request, r)) :
    request.id.Legible Number.Fits (maxDepth - 1) := by
  unfold readArray at h
  split at h
  next => simp at h
  next =>
    split_ifs at h
    obtain ⟨⟨method, r₁⟩, -, h⟩ := bind_eq_ok_iff.1 h
    obtain ⟨⟨params, r₂⟩, -, h⟩ := bind_eq_ok_iff.1 h
    obtain ⟨⟨id, r₃⟩, hid, h⟩ := bind_eq_ok_iff.1 h
    obtain ⟨r₄, -, h⟩ := bind_eq_ok_iff.1 h
    obtain ⟨rfl, rfl⟩ := Prod.mk.inj (Except.ok.inj h)
    exact legible_of_readItem hid

/-- The identifier of a request has been read, with one level of brackets around it. -/
theorem legible_id_of_ofLine {line : List Char} {request : Request}
    (h : Request.ofLine line = .ok request) :
    request.id.Legible Number.Fits (maxDepth - 1) := by
  obtain ⟨⟨request', r⟩, hrequest, h⟩ := bind_eq_ok_iff.1 h
  obtain ⟨-, -, h⟩ := bind_eq_ok_iff.1 h
  obtain rfl := Except.ok.inj h
  unfold readRequest at hrequest
  split at hrequest
  next =>
    obtain ⟨⟨request'', u⟩, hread, hrequest⟩ := bind_eq_ok_iff.1 hrequest
    obtain ⟨rfl, rfl⟩ := Prod.mk.inj (Except.ok.inj hrequest)
    exact legible_of_readArray hread
  next =>
    obtain ⟨⟨request'', u⟩, hread, hrequest⟩ := bind_eq_ok_iff.1 hrequest
    obtain ⟨rfl, rfl⟩ := Prod.mk.inj (Except.ok.inj hrequest)
    exact legible_of_readObject hread
  next => simp at hrequest

theorem legible_replyId (line : List Char) : (replyId line).Legible Number.Fits (maxDepth - 1) := by
  unfold replyId
  split
  next request hread => exact legible_id_of_ofLine hread
  next => exact .null

end Identifiers

/-! ### Replies -/

section Replies

variable {σ : Type} {host : Host (StateM σ)} {line : List Char} {s t : σ} {response : Response}

theorem id_eq_replyId (h : Step host line s response t) : response.id = replyId line := by
  cases h <;> simp_all [replyId]

theorem fits_code (refusal : Refusal) : Number.Fits (.int refusal.code) := by
  cases refusal <;> simp [Number.Fits, Refusal.code]

theorem legible_error (refusal : Refusal) :
    (outcomeMember (.error refusal)).2.Legible Number.ReadsBack (maxDepth - 1) := by
  refine .object ?_
  simp only [List.forall_mem_cons]
  exact ⟨.number (Number.readsBack_int (fits_code refusal)), .string, by simp⟩

theorem legible_manifest (P : Number → Prop) :
    (Json.object [("manifest", manifest)]).Legible P (maxDepth - 1) := by
  refine .object ?_
  simp only [List.forall_mem_singleton]
  refine .object ?_
  simp only [List.forall_mem_cons]
  exact ⟨.string, .string, .string, .array (List.forall_mem_singleton.2 .string), by simp⟩

/-- What a reply says besides the identifier is read back. -/
theorem legible_outcome (h : Step host line s response t) :
    (outcomeMember response.outcome).2.Legible Number.ReadsBack (maxDepth - 1) := by
  cases h with
  | unreadable | unknown | invalidOptions | noOutput | failed => exact legible_error _
  | manifest => exact (legible_manifest _).value
  | generated => exact .null

theorem legible_toJson (h : Step host line s response t)
    (hid : (replyId line).Legible Number.ReadsBack (maxDepth - 1)) :
    response.toJson.Legible Number.ReadsBack maxDepth := by
  refine .object ?_
  simp only [List.forall_mem_cons]
  exact ⟨.string, (id_eq_replyId h).symm ▸ hid, legible_outcome h, by simp⟩

theorem legible_replies (host : Host (StateM σ)) (s : σ) (input : String) :
    List.Forall₂ (fun line reply => (replyId line).Legible Number.ReadsBack (maxDepth - 1) →
        reply.Legible Number.ReadsBack maxDepth)
      (requestLines input.toList) (replies host s input) := by
  rw [replies, List.forall₂_map_right_iff]
  exact (run_serve host input.toList s).forall₂ fun _ _ _ _ h => legible_toJson h.step

/-- **What the tool reads.** The lines of the standard error are read back as the replies, in their
order, if every float of an identifier is read back from its text. -/
theorem read_stderr (host : Host (StateM σ)) (s : σ) (input : String)
    (hids : ∀ line ∈ requestLines input.toList,
      ∃ depth, (replyId line).Legible Number.FloatReadsBack depth) :
    (Text.lines ((Command.run host [] input).run s).1.stderr.toList).map Json.read =
      (replies host s input).map .ok := by
  have hreplies := legible_replies host s input
  rw [stdout_replies, lines_replies, List.map_map]
  generalize requestLines input.toList = lines at hids hreplies
  generalize replies host s input = replies at hreplies ⊢
  induction hreplies with
  | nil => rfl
  | @cons line reply lines replies first _ ih =>
    obtain ⟨hline, hlines⟩ := List.forall_mem_cons.1 hids
    obtain ⟨depth, hfloats⟩ := hline
    have hid : (replyId line).Legible Number.ReadsBack (maxDepth - 1) :=
      (legible_replyId line).combine hfloats fun _ => Number.readsBack_of_fits
    rw [List.map_cons, List.map_cons, ih hlines]
    exact congrArg (· :: replies.map .ok) (read_text (first hid))

end Replies

end Protocol

end RowSchema
