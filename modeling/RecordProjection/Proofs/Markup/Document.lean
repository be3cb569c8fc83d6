import RecordProjection.Markup.Document
import RecordProjection.Proofs.Markup.Rendering

/-! Documents that were written. A written document shows its encoding, declares the same one, and
holds a single root, which is read back as a rendered tree is. -/

namespace RecordProjection.Markup
open Text

theorem decodeUtf8_toUTF8 (text : String) : decodeUtf8 text.toUTF8 = (text.toList, .complete) := by
  have valid : String.fromUTF8? text.toUTF8 = some text := dif_pos text.isValidUTF8
  rw [decodeUtf8, valid]

theorem detect?_documentLine (rest : List Char) :
    Encoding.detect? (String.ofList (documentLine.toList ++ rest)).toUTF8 = some (.utf8, 0) := by
  have opening : documentLine.toList ++ rest =
      ['<', '?', 'x'] ++ (documentLine.toList.drop 3 ++ rest) := rfl
  have mark : (String.ofList (documentLine.toList ++ rest)).toUTF8.extract 0 3 =
      ['<', '?', 'x'].utf8Encode := by
    rw [opening, String.toUTF8_eq_toByteArray, String.toByteArray_ofList, List.utf8Encode_append]
    exact ByteArray.extract_append_eq_left rfl
  rw [Encoding.detect?, mark]
  have octets : ['<', '?', 'x'].utf8Encode.toList = [0x3C, 0x3F, 0x78] := by decide +kernel
  rw [octets]
  rfl

theorem scanDocumentDeclaration_documentLine (rest : List Char) :
    ∃ place, scanDocumentDeclaration (documentLine.toList ++ rest) =
      .ok (some (⟨some ("utf-8".toList, place), false⟩, '\n' :: rest)) := by
  let parts := " version=\"1.0\" encoding=\"utf-8\"".toList
  let body := parts ++ "?>\n".toList ++ rest
  have opening : documentLine.toList ++ rest = declarationOpening ++ body := rfl
  have target : scanTargeted (declarationTarget ++ body) = .ok (true, '\n' :: rest) := rfl
  have inner : body.take (body.length - ('\n' :: rest).length - 2) = parts := by
    have size : body.length - ('\n' :: rest).length - 2 = parts.length := by
      simp [body]
      omega
    rw [size]
    rfl
  have read : readDeclaration parts =
      .ok ⟨some ("utf-8".toList, "utf-8\"".toList), false⟩ := rfl
  have shape : declarationOpening ++ body = '<' :: '?' :: (declarationTarget ++ body) := rfl
  rw [opening, shape, scanDocumentDeclaration, target]
  dsimp only
  rw [← shape, List.drop_left, inner, read]
  exact ⟨_, rfl⟩

theorem isLegal_of_isNameStart {c : Char} (start : isNameStart c = true) : isLegal c = true := by
  unfold isNameStart at start
  by_cases ascii : c.toNat < 0x80
  · rw [if_pos ascii, Bool.or_eq_true, decide_eq_true_eq] at start
    rcases start with letter | rfl
    · have range := range_of_isAlphanum (c := c) (by simp [Char.isAlphanum, letter])
      exact isLegal_of_range (by omega) (by omega)
    · decide
  · rw [if_neg ascii, Ranges.contains_iff] at start
    have bounded : ∀ range ∈ nameLetters, range.2 < 0xFFFE := by decide +kernel
    obtain ⟨range, listed, -, below⟩ := start
    have := bounded range listed
    exact isLegal_of_range (by omega) (by omega)

theorem Element.Writable.named {element : Element} (writable : element.Writable) :
    isPlainName element.tag.toList = true := by
  cases writable with
  | intro named => exact named

theorem prologTokens_tag {tag : List Char} (named : isPlainName tag = true) (rest : List Char) :
    prologTokens .complete ('\n' :: '<' :: (tag ++ rest)) =
      [⟨.rootStart, '<' :: (tag ++ rest)⟩] := by
  cases tag with
  | nil => cases named
  | cons c more =>
    simp only [isPlainName, Bool.and_eq_true] at named
    have starts : (isKeywordChar c || decide (0x80 ≤ c.toNat) && isLegal c) = true := by
      have start := named.1
      rw [isLegal_of_isNameStart start]
      unfold isNameStart at start
      by_cases ascii : c.toNat < 0x80
      · rw [if_pos ascii] at start
        rw [isKeywordChar, start, Bool.true_or]
      · simp
        omega
    have apart : ∀ d, isNameStart d = false → c ≠ d := by
      rintro d other rfl
      simp [other] at named
    have angle : scanAngle (c :: (more ++ rest)) = .ok (.rootStart, c :: (more ++ rest)) := by
      rw [scanAngle, if_pos starts]
      all_goals exact apart _ (by decide)
    have token : scanPrologToken '<' (c :: (more ++ rest)) =
        .ok (.rootStart, c :: (more ++ rest)) := angle
    rw [prologTokens, if_pos (by decide), List.cons_append, prologTokens, if_neg (by decide)]
    split
    · rename_i found
      cases found.symm.trans token
    · rfl
    · rename_i other found
      cases found.symm.trans token
      exact absurd rfl other

theorem redeclared_utf8 : Encoding.utf8.redeclared "utf-8".toList = .ok .utf8 := by
  rfl

theorem readRoot_of_grow {tag text : List Char} {root : Element} (named : isPlainName tag = true)
    (grown : grow {} [] 0 [] (pieces .complete ('<' :: (tag ++ text))) = growBehind root [] ['\n'])
    (size : Nat) :
    readRoot size .complete false ('\n' :: '<' :: (tag ++ text)) = .ok root := by
  have tail : followingText (pieces .complete ['\n']) = ['\n'] := by
    rw [pieces] <;> simp [isLegal, followingText]
  have epilog : checkEpilog (prologTokens .complete ['\n']) = .ok () := by
    rw [prologTokens, if_pos (by decide), prologTokens]
    rfl
  unfold readRoot
  rw [prologTokens_tag named, readProlog, if_pos (by rfl)]
  dsimp only
  rw [admitted, if_pos (by rfl), grown, growBehind, attach]
  dsimp only
  rw [tail, epilog]

theorem readDocument_of_grow {tag text : List Char} {root : Element}
    (named : isPlainName tag = true)
    (grown : grow {} [] 0 [] (pieces .complete ('<' :: (tag ++ text))) =
      growBehind root [] ['\n']) :
    readDocument (String.ofList (documentLine.toList ++ '<' :: (tag ++ text))).toUTF8 =
      .ok root := by
  obtain ⟨place, declared⟩ := scanDocumentDeclaration_documentLine ('<' :: (tag ++ text))
  have detected := detect?_documentLine ('<' :: (tag ++ text))
  rw [readDocument.eq_def, detected]
  dsimp only
  rw [Encoding.decode, decodeUtf8_toUTF8, String.toList_ofList, if_pos rfl, declared]
  dsimp only
  rw [redeclared_utf8]
  dsimp only
  rw [if_pos rfl, readRoot_of_grow named grown]
  rfl

theorem readDocument_renderDocument {root : Element} (writable : root.Writable) :
    readDocument (renderDocument root).toUTF8 = .ok (root.lineFed.indented 0) := by
  obtain ⟨text, front⟩ := render_front 0 root
  have grown := readsBack writable 0 [] ['\n'] rfl
  rw [front, List.cons_append, List.append_assoc] at grown
  have written : renderDocument root =
      .ofList (documentLine.toList ++ '<' :: (root.tag.toList ++ (text ++ ['\n']))) := by
    simp [renderDocument, front]
  rw [written, readDocument_of_grow writable.named grown]

end RecordProjection.Markup
