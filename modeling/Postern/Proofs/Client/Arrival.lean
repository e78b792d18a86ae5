import Postern.Proofs.Client.Agreement
import Postern.Proofs.Http.Target
import Postern.Proofs.Url.Path

/-!
What clients ask for arrives.  The address of a gateway is one name further in the path of an address that was read
(`exists_path_of_ofServer`), so its path may stand in a target, and so may the query that a client writes.  The service
takes such a target apart into the same path and the same query, and reads the pairs that were written.
-/

namespace Postern

/-- What is asked for at the host of an address: its path and its query. -/
def Url.target (u : Url) : String := String.ofList (u.path.text ++ partText '?' u.query)

namespace Client

theorem sendable_gatewayName : Url.Sendable [gatewayName] := by
  intro name hname
  obtain rfl := List.mem_singleton.1 hname
  have hall : gatewayName.toList.all HttpRequest.isPathChar = true := by decide
  exact List.all_eq_true.1 hall

section
variable {base : String} {c : Client} (hc : ofServer base = .ok c)
include hc

/-- The gateway stands below whatever address the client was made for. -/
theorem exists_path_of_ofServer :
    ∃ names, c.gateway.path = .segments (names ++ [gatewayName]) ∧ Url.Sendable (names ++ [gatewayName]) ∧
      c.gateway.fragment = none := by
  unfold ofServer at hc
  split at hc
  · rename_i gateway hgateway
    obtain rfl := Except.ok.inj hc
    cases hread : Url.read base with
    | error fault =>
      rw [hread] at hgateway
      cases hgateway
    | ok url =>
      rw [hread] at hgateway
      exact (Url.readsSendable_read base url hread).sibling sendable_gatewayName hgateway
  · cases hc

variable (action : String) (params : List (String × String))

theorem text_address :
    (c.address action params).text =
      String.ofList (c.gateway.scheme.toList ++ ':' :: c.gateway.authorityText) ++
        (c.address action params).target := by
  obtain ⟨names, -, -, hfragment⟩ := exists_path_of_ofServer hc
  have hauthority : (c.address action params).authorityText = c.gateway.authorityText := rfl
  have hnone : (c.address action params).fragment = none := hfragment
  rw [Url.text, hauthority, hnone, Url.target, ← String.ofList_append]
  simp [Url.partText, Client.address, Url.withQuery]

/-- A target that is not too long makes the request that the client sends, whatever headers are added to it. -/
theorem ofParts?_target (hsize : Text.Utf8.size (c.address action params).target ≤ HttpRequest.longestTarget)
    (headers : List (String × String)) :
    HttpRequest.ofParts? "GET" (c.address action params).target headers =
      (headers.mapM HttpRequest.header?).map ({ requestFor (c.address action params) with headers := · }) := by
  obtain ⟨names, hpath, hsendable, -⟩ := exists_path_of_ofServer hc
  have hslash : (Url.Path.segmentsText (names ++ [gatewayName])).head? = some '/' := by
    cases names <;> rfl
  have htext : (c.address action params).path.text = Url.Path.segmentsText (names ++ [gatewayName]) :=
    congrArg Url.Path.text hpath
  have htarget : (c.address action params).target.toList = Url.Path.segmentsText (names ++ [gatewayName]) ++
      '?' :: (Text.Form.encode (params ++ [("action", action)])).toList := by
    rw [Url.target, String.toList_ofList, htext]
    rfl
  have hread := HttpRequest.ofParts?_path (fun _ => hsendable.isPathChar)
    (fun _ => HttpRequest.isQueryChar_of_mem_encode) hslash htarget hsize headers
  rw [String.ofList_toList] at hread
  rw [hread, requestFor, htext]
  rfl

end

/-- **What a client asks for is what the gateway reads.**  Its address ends with a target; the request that this target
makes, unless it is too long to be sent, has the parameters that were passed, the last one of each name, and with them
the action, whatever parameter has that name. -/
theorem query_arrives {base : String} {c : Client} (hc : ofServer base = .ok c) (action : String)
    (params : List (String × String)) :
    let url := c.address action params
    let sent := requestFor url
    url.text = String.ofList (c.gateway.scheme.toList ++ ':' :: c.gateway.authorityText) ++ url.target ∧
      (Text.Utf8.size url.target ≤ HttpRequest.longestTarget → ∀ headers,
        HttpRequest.ofParts? "GET" url.target headers =
          (headers.mapM HttpRequest.header?).map ({ sent with headers := · })) ∧
      sent.parameters = (Store.Table.ofList params).insert "action" action ∧
      sent.parameters.find? "action" = some action ∧
      ∀ name ≠ "action", sent.parameters.find? name = params.reverse.lookup name := by
  intro url sent
  have hread : sent.parameters = (Store.Table.ofList params).insert "action" action :=
    (parameters_requestFor c action params).trans (Store.Table.ofList_concat params "action" action)
  refine ⟨text_address hc action params, ofParts?_target hc action params, hread, ?_, ?_⟩
  · rw [hread, Store.Table.find?_insert, if_pos rfl]
  · intro name hname
    rw [hread, Store.Table.find?_insert, if_neg (Ne.symm hname), Store.Table.find?_ofList]

/-- Names and values with blanks, with the signs of the encoding and with letters beyond ASCII. -/
theorem query_arrives_marked :
    let c : Client :=
      ⟨⟨"http", "", "", some (.domain "localhost"), some 3000, .segments ["a%20b", "dev"], none, none⟩⟩
    let params := [("value", "lost"), ("action", "purge"), ("", "a=b&c"), ("value", "1 + 1% \u20ac")]
    let url := c.address "get_secret" params
    ofServer "http://localhost:3000/a b/" = .ok c ∧
      url.target = "/a%20b/dev?value=lost&action=purge&=a%3Db%26c&value=1+%2B+1%25+%E2%82%AC&action=get_secret" ∧
      url.text = "http://localhost:3000" ++ url.target ∧
      HttpRequest.ofParts? "GET" url.target [] = some (requestFor url) ∧
      (requestFor url).parameters.find? "action" = some "get_secret" ∧
      (requestFor url).parameters.find? "" = some "a=b&c" ∧
      (requestFor url).parameters.find? "value" = some "1 + 1% \u20ac" := by
  intro c params url
  have hc : ofServer "http://localhost:3000/a b/" = .ok c := rfl
  obtain ⟨htext, hsent, -, haction, hother⟩ := query_arrives hc "get_secret" params
  have horigin : String.ofList (c.gateway.scheme.toList ++ ':' :: c.gateway.authorityText) = "http://localhost:3000" :=
    by decide +kernel
  have hsize : Text.Utf8.size url.target ≤ HttpRequest.longestTarget := by decide +kernel
  rw [horigin] at htext
  exact ⟨hc, by decide +kernel, htext, hsent hsize [], haction, hother "" (by decide), hother "value" (by decide)⟩

end Client
end Postern
