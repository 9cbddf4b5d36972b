import WorkflowLab.Proofs.Json.Reading
import WorkflowLab.Proofs.Json.Received
import WorkflowLab.Proofs.Run.Answers

/-!
# What nodes write and read

Two nodes write JSON: a code node that makes a text of its input, and an http node that sends its input. One node reads
it: an http node, in the body of a reply.

- `Json.IsDocument`: the values of JSON texts whose numbers are finite; `parseBody_render` reads such a value back from
  every layout that has a comma and a colon for separators;
- `Fetcher.Echoes`: a fetcher that gives a request its body back;
- `Runner.handle_http`: what an http node outputs when its request is answered;
- `reads_what_is_written`: **both texts are read back as the value**, and what an http node sends to an echo is its
  output's data.
-/

namespace WorkflowLab

namespace Json

/-- A JSON value with finite numbers: the value of some text, in which no double is infinite or undefined. -/
structure IsDocument (v : Json) : Prop where
  text : ∃ text, parse text = .ok v
  finite : v.every hasFiniteDouble = true

/-- No object in the value of a text repeats a key, and no integer in it is too long to be read. -/
theorem IsDocument.isReceived {v : Json} (h : v.IsDocument) : v.isProper = true ∧ v.isShort = true := by
  obtain ⟨text, htext⟩ := h.text
  exact every_isReceived_iff.mp (every_of_parse htext)

theorem IsDocument.isPlain {v : Json} (h : v.IsDocument) : v.isPlain = true :=
  isPlain_iff.mpr ⟨h.isReceived.2, h.finite⟩

end Json

/-- The fetcher gives a request, after some earlier ones, its body back. -/
def Fetcher.Echoes (fetcher : Fetcher) (earlier : List WebRequest) (r : WebRequest) (status : Int) : Prop :=
  ∃ headers, fetcher.reply (earlier ++ [r]) = .ok ⟨status, r.content.getD "", headers⟩

namespace Run

open Node Work Json

/-- **A body in any layout is read as the value that was written.** -/
theorem parseBody_render {style : Style} (hstyle : style.IsSeparated) {v : Json} (h : v.IsDocument) :
    parseBody (v.render style) = v := by
  have hparse : parse (v.render style).toList = .ok v := by
    rw [render, String.toList_ofList, parse_renderAt hstyle h.isReceived.1 h.isPlain]
  rw [parseBody, hparse]

/-- The input of a request that is no GET is its body, unless it is null. -/
theorem content_webRequest {s : RequestSettings} {url : String} {v : Json}
    (hmethod : (webRequest s url v).method ≠ "GET") (hnull : v.isNull = false) :
    (webRequest s url v).content = some (v.render spaced) :=
  if_neg (not_or.mpr ⟨hmethod, Bool.eq_false_iff.mp hnull⟩)

/-- An answered request is the output of its node: the status of the reply and the value of its body. -/
theorem exchange_of_reply {fetcher : Fetcher} {task : Task} {r : WebRequest} {reply : WebReply} {w : World}
    (hreply : fetcher.reply (w.fetches ++ [r]) = .ok reply) (opening label : String) :
    (exchange fetcher task r opening label w).1 =
      .ok (.obj [("status", .int reply.status), ("data", parseBody reply.text)]) := by
  let started := (Lab.enter task.id .start opening .null w).2
  have hstart : enter task .start opening .null w = (.ok (), started) := rfl
  obtain ⟨records, hsend⟩ := send_eq fetcher r started
  have hanswer : fetcher.reply (started.fetches ++ [r]) = .ok reply := hreply
  rw [hanswer] at hsend
  have hsent : (ExceptT.lift (Lab.send fetcher r) : Work _) started =
      (.ok (.ok reply), { started with calls := started.calls ++ [.fetch r], records }) := by
    show ((Except.ok (Lab.send fetcher r started).1, (Lab.send fetcher r started).2) : Except NodeFault _ × World) = _
    rw [hsend]
  rw [exchange, bind_of_ok hstart, bind_of_ok hsent]
  rfl

section Nodes

variable {provider : Option Provider} {fetcher : Fetcher} {setup : Setup} {node : Node} {s : RequestSettings}
  {url : String} {v : Json} {w : World}

/-- **An http node whose request is answered** outputs the status of the reply and the value of its body. -/
theorem Runner.handle_http (hvariant : node.variant = Service.http.variant)
    (hsettings : RequestSettings.read (.obj node.config) = .good s) (hurl : filled? s.url = some url)
    {reply : WebReply} (hreply : fetcher.reply (w.fetches ++ [webRequest s url v]) = .ok reply) :
    ((standard provider fetcher setup).handle node v w).1 =
      .ok (.obj [("status", .int reply.status), ("data", parseBody reply.text)]) := by
  have hexecutor : Registry.standardFor provider fetcher setup node = .request fetcher setup.demoUrl := by
    rw [Registry.standardFor, hvariant, Service.ofVariant?_variant]
    rfl
  have hanswer : fetcher.reply ((entered node w).fetches ++ [webRequest s url v]) = .ok reply := hreply
  have hrun : ((Executor.request fetcher setup.demoUrl).run (Task.mk node v) (entered node w)).1 =
      .ok (.obj [("status", .int reply.status), ("data", parseBody reply.text)]) := by
    show (runRequest fetcher setup.demoUrl (Task.mk node v) (entered node w)).1 = _
    unfold runRequest
    rw [settings_of_good hsettings, pure_bind, hurl]
    exact exchange_of_reply hanswer _ _
  rw [handle_standard, hexecutor, hrun]
  rfl

/-- **JSON that nodes write is read back unchanged**, whatever value with finite numbers it is. The text that the
transform `stringify` makes of it is read as the value, and so is the body of a request that is no GET, unless the value
is null; so an http node that sends its input to an endpoint that echoes it outputs its input. -/
theorem reads_what_is_written (hdocument : v.IsDocument) :
    (∃ text, (Transform.ofName "stringify").apply v = .str text ∧ parseBody text = v) ∧
    (v.isNull = false → ∀ (s : RequestSettings) (url : String), (webRequest s url v).method ≠ "GET" →
      (∃ body, (webRequest s url v).content = some body ∧ parseBody body = v) ∧
      ∀ (provider : Option Provider) (fetcher : Fetcher) (setup : Setup) (node : Node) (w : World) (status : Int),
        node.variant = Service.http.variant → RequestSettings.read (.obj node.config) = .good s →
        filled? s.url = some url → fetcher.Echoes w.fetches (webRequest s url v) status →
        ((Runner.standard provider fetcher setup).handle node v w).1 =
          .ok (.obj [("status", .int status), ("data", v)])) := by
  refine ⟨⟨_, rfl, parseBody_render isSeparated_indented hdocument⟩, fun hnull s url hmethod => ?_⟩
  have hcontent := content_webRequest hmethod hnull
  have hread := parseBody_render isSeparated_spaced hdocument
  refine ⟨⟨_, hcontent, hread⟩, ?_⟩
  rintro provider fetcher setup node w status hvariant hsettings hurl ⟨headers, hreply⟩
  rw [hcontent, Option.getD_some] at hreply
  rw [Runner.handle_http hvariant hsettings hurl hreply, hread]

end Nodes

/-- A value with quotes, escapes, characters outside ASCII and beyond the basic plane, numbers of both types, and texts
that look like JSON. -/
def parcel : Json :=
  .obj [("z", .arr [.str "a \"clef\":\n𝄞 é\x01\\", .str "[1, 2.0]", .int (-7), .float 1e22, .float 7]),
    ("a", .obj [("", .arr []), ("null", .obj [])]), ("true", .bool true)]

/-- An http node that sends its input. -/
def courier : Node where
  id := "p"
  kind := .action
  service := "http"
  config := [("url", .str "https://echo.test"), ("method", .str "post")]
  successors := []
  position := none
  extra := []

/-- An endpoint that gives every body back. -/
def echo : Fetcher where
  transport := .direct
  reply requests := .ok ⟨200, (requests.getLast?.bind WebRequest.content).getD "", []⟩

/-- This value is read back, also when it comes back from such an endpoint. -/
theorem reads_parcel :
    parcel.IsDocument ∧ parcel.isNull = false ∧
      RequestSettings.read (.obj courier.config) = .good ⟨some "https://echo.test", some "post", [], []⟩ ∧
      (∃ text, (Transform.ofName "stringify").apply parcel = .str text ∧ parseBody text = parcel) ∧
      ((Runner.standard none echo .standard).handle courier parcel Runner.dawn).1 =
        .ok (.obj [("status", .int 200), ("data", parcel)]) := by
  have hdocument : parcel.IsDocument :=
    ⟨⟨_, parse_renderAt isSeparated_compact (by decide) (by decide)⟩, by decide⟩
  have hsettings : RequestSettings.read (.obj courier.config) =
      .good ⟨some "https://echo.test", some "post", [], []⟩ := rfl
  obtain ⟨htext, hsent⟩ := reads_what_is_written hdocument
  obtain ⟨-, houtput⟩ := hsent rfl ⟨some "https://echo.test", some "post", [], []⟩ "https://echo.test" (by decide)
  exact ⟨hdocument, rfl, hsettings, htext,
    houtput none echo .standard courier Runner.dawn 200 rfl hsettings rfl ⟨[], rfl⟩⟩

end Run

end WorkflowLab
