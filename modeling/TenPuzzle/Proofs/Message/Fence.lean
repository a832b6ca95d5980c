import Mathlib.Data.List.DropRight
import TenPuzzle.Proofs.Message.Fewest

/-!
Fenced messages. Every chunk stands between fences of its own, and what stands between them is the message as it would
be cut without fences, into chunks that are shorter by the length of the fences.
-/

namespace TenPuzzle

/-- What stands between the fences of a text. -/
def withoutFences (language text : String) : List Char :=
  (text.toList.drop (fenceOpening language.toList).length).rdrop fenceClosing.length

/-- How long a chunk can be between fences. -/
def fencedRoom (language : String) : Nat :=
  messageLimit - ("```" ++ language ++ "\n").length - "```".length

def fenced (language : String) (chunk : List Char) : String :=
  String.ofList (fenceOpening language.toList ++ chunk ++ fenceClosing)

section

variable {message language text : String} {reference : Option String} {chunk : List Char}

theorem fenceOpening_length (language : String) :
    (fenceOpening language.toList).length = ("```" ++ language ++ "\n").length := by
  rw [fenceOpening, List.length_append, List.length_append, String.length_toList, String.length_append,
    String.length_append]
  rfl

theorem withoutFences_fenced (language : String) (chunk : List Char) :
    withoutFences language (fenced language chunk) = chunk := by
  rw [withoutFences, fenced, String.toList_ofList, List.append_assoc, List.drop_left, List.rdrop_append_length]

theorem chunks_fenced (message language : String) :
    chunks message (some language) =
      (chunkLines message.toList (fencedRoom language)).map (fenced language) := by
  have room : messageLimit - (fenceOpening language.toList).length - fenceClosing.length = fencedRoom language := by
    rw [fenceOpening_length]
    rfl
  rw [chunks, fencedChunks, room, List.map_map]
  rfl

theorem posts_text (message : String) (reference language : Option String) :
    (posts message reference language).map Post.text = chunks message language := by
  rw [posts]
  cases chunks message language with
  | nil => rfl
  | cons first rest =>
      dsimp only
      rw [List.map_cons, List.map_map]
      exact congrArg (first :: ·) (List.map_id rest)

/-- Without its fences, every post is a chunk. -/
theorem posts_between (message : String) (reference : Option String) (language : String) :
    (posts message reference (some language)).map (fun post => withoutFences language post.text) =
      chunkLines message.toList (fencedRoom language) := by
  have texts := congrArg (List.map (withoutFences language)) (posts_text message reference (some language))
  rw [List.map_map, chunks_fenced, List.map_map] at texts
  refine texts.trans ?_
  simp only [Function.comp_def, withoutFences_fenced, List.map_id']

theorem posts_reference (message : String) (reference : Option String) (language : String) :
    ∃ (first : String) (rest : List String), posts message reference (some language) =
      ⟨first, reference⟩ :: rest.map fun text => ⟨text, none⟩ := by
  obtain ⟨chunk, others, areChunks⟩ :=
    List.exists_cons_of_ne_nil (chunkLines_ne_nil message.toList (fencedRoom language))
  exact ⟨fenced language chunk, others.map (fenced language), by rw [posts, chunks_fenced, areChunks]; rfl⟩

theorem fencedRoom_eq (language : String) : fencedRoom language = 1993 - language.length := by
  have constants : "```".length = 3 ∧ "\n".length = 1 := by decide
  rw [fencedRoom, String.length_append, String.length_append, constants.1, constants.2, messageLimit]
  omega

/-- A post fits, and the chunk in it ends in a line break. -/
theorem post_isFenced {post : Post} (short : language.length ≤ 1991)
    (isPost : post ∈ posts message reference (some language)) :
    post.text.length ≤ messageLimit ∧ ∃ body, post.text = "```" ++ language ++ "\n" ++ body ++ "\n```" := by
  have isText : post.text ∈ (posts message reference (some language)).map Post.text := List.mem_map_of_mem isPost
  rw [posts_text] at isText
  constructor
  · refine chunk_length_le ?_ isText
    rintro _ ⟨⟩
    have closing : fenceClosing.length = 3 ∧ messageLimit = 2000 := by decide
    rw [fenceOpening, List.length_append, List.length_append, String.length_toList, closing.1, closing.2,
      List.length_singleton]
    change 3 + language.length + 1 + 3 + 2 ≤ 2000
    omega
  · rw [chunks_fenced] at isText
    obtain ⟨chunk, isIn, same⟩ := List.mem_map.mp isText
    have isChunk := mem_chunkLines (by rw [fencedRoom_eq]; omega) isIn
    obtain ⟨body, rfl⟩ := List.getLast?_eq_some_iff.mp isChunk.ends
    refine ⟨String.ofList body, ?_⟩
    rw [← same, ← String.toList_inj, fenced, String.toList_ofList]
    simp only [String.toList_append, String.toList_ofList, List.append_assoc, fenceOpening, fenceClosing]
    rfl

end

end TenPuzzle
