import HylaFax.PyFax.Api

/-!
# The views of `rest_api.py`

Each route's view function, written from its source: the checks it makes on the request,
the `with PyFaxAPI(HYLAFAX_HOST) as fax_api:` session, and the `except Exception` around its
body, which turns any exception into a 500 response carrying `str(e)` (`catchAll`). A view
returns the JSON envelope `create_api_response` builds and the status (`Response`).

A request is what its view reads of it (`Request`). `json.loads` is taken as given:
`SendRequest` holds, for the `destinations` and `options` fields, the value `json.loads`
returns on the field's text (on `'[]'` and `'{}'` when the field is absent) or the exception
it raises. `Env` holds what the views find around them: the library, the two environment
variables, and what `uuid.uuid4`, `secure_filename`, `file.save` and `os.unlink` do.
-/

namespace HylaFax.RestApi

open HylaFax.Py HylaFax.PyFax

/-- The JSON body of a response, and its status. -/
structure Response where
  success : Bool
  message : PyStr
  data : PyVal
  statusCode : Nat

/-- `create_api_response(success, data, message, status_code)`: `data or {}`. -/
def createApiResponse (success : Bool) (data : PyVal) (message : PyStr) (statusCode : Nat) : Response :=
  ⟨success, message, if data.truthy then data else .dict [], statusCode⟩

/-- What `file.save(path)` does: write the file, or raise, having created it or not. -/
inductive SaveOutcome
  | saved
  | fails (created : Bool) (e : PyExc)

/-- What the views find around them. -/
structure Env where
  lib : LibEnv
  oracle : Oracle
  /-- `HYLAFAX_HOST`. -/
  host : PyStr
  /-- `UPLOAD_FOLDER`. -/
  uploadFolder : PyStr
  /-- `werkzeug.utils.secure_filename`. -/
  secureFilename : PyStr → PyStr
  /-- The text of the request's `n`-th `uuid.uuid4()`. -/
  uuid4 : Nat → PyStr
  save : PyStr → SaveOutcome
  /-- What `os.unlink(path)` raises, `none` when it removes the file. -/
  unlink : PyStr → Option PyExc

/-- `try: body except Exception as e: return create_api_response(False, data, str(e), 500)`. -/
def catchAll (data : PyVal) (body : PyM Response) : PyM Response :=
  tryCatch body fun e => pure (createApiResponse false data e.str 500)

/-- `connect()`, then `login()`, each answering 503 when it fails, then `k`: how every view but
`health_check` starts its session. -/
def authenticated (env : Env) (k : PyM Response) : PyM Response := do
  let (success, error) ← PyFaxAPI.connect env.oracle
  if !success then return createApiResponse false .null ("Connection failed: " ++ error) 503
  let (success, error) ← PyFaxAPI.login env.oracle ""
  if !success then return createApiResponse false .null ("Login failed: " ++ error) 503
  k

/-- `with PyFaxAPI(HYLAFAX_HOST) as fax_api:` around `authenticated env k`. -/
def openSession (env : Env) (k : PyM Response) : PyM Response :=
  withPyFaxAPI env.lib env.oracle env.host (authenticated env k)

/-! ## `GET /api/health` -/

/-- `health_check`. -/
def healthCheck (env : Env) : PyM Response :=
  catchAll (.dict [("status", .str "error")]) <| withPyFaxAPI env.lib env.oracle env.host do
    let (success, error) ← PyFaxAPI.connect env.oracle
    if success then
      return createApiResponse true (.dict [("status", .str "healthy")]) "HylaFAX server is reachable" 200
    else
      return createApiResponse false (.dict [("status", .str "unhealthy")])
        ("Cannot connect to HylaFAX: " ++ error) 503

/-! ## `POST /api/fax/send` -/

/-- An uploaded file, as the view reads it. -/
structure Upload where
  filename : PyStr

/-- `POST /api/fax/send`, as the view reads it. -/
structure SendRequest where
  /-- The body is over `MAX_CONTENT_LENGTH` (16 MiB): reading `request.files` raises
  `RequestEntityTooLarge`. -/
  tooLarge : Bool
  /-- `request.files.getlist('files')`, empty when no part is named `files`. -/
  files : List Upload
  /-- `json.loads(request.form.get('destinations', '[]'))`. -/
  destinations : Except PyExc PyVal
  /-- `json.loads(request.form.get('options', '{}'))`. -/
  options : Except PyExc PyVal

/-- `ALLOWED_EXTENSIONS`. -/
def allowedExtensions : List PyStr := ["pdf", "ps", "txt", "tiff", "tif"]

/-- `c.lower()` for an ASCII letter, and `c` for any other character. -/
def lowerAscii (c : CodePoint) : CodePoint :=
  if h : 65 ≤ c.val ∧ c.val ≤ 90 then ⟨c.val + 32, by omega⟩ else c

/-- `s.lower()` where the result is only compared with ASCII names (the extensions, the keys
of `queue_mapping`) or is one of them: the only characters outside ASCII whose lower case is
ASCII is U+212A KELVIN SIGN, whose lower case `k` none of those names holds. -/
def lower (s : PyStr) : PyStr := s.map lowerAscii

/-- `allowed_file(filename)`: a `.` in the name, and the text after the last one, in lower
case, an allowed extension. -/
def allowedFile (filename : PyStr) : Bool :=
  -- `46` is `'.'`
  filename.contains 46 && allowedExtensions.contains (lower (filename.reverse.takeWhile (· != 46)).reverse)

/-- `os.path.join(folder, name)` for a `name` that is not absolute. -/
def joinPath (folder name : PyStr) : PyStr :=
  -- `47` is `'/'`
  if folder.isEmpty || folder.getLast? == some 47 then folder ++ name else folder ++ 47 :: name

/-- Make `path` a file of the upload folder. -/
def addUpload (path : PyStr) : PyM Unit :=
  modify fun w => { w with uploads := fun p => p == path || w.uploads p }

/-- `file.save(path)`. -/
def saveFile (env : Env) (path : PyStr) : PyM Unit :=
  match env.save path with
  | .saved => addUpload path
  | .fails created e => do
    if created then addUpload path
    throw e

/-- The staging loop of `send_fax`: each file with a name and an allowed extension is saved
as `UPLOAD_FOLDER/<uuid4>_<secure_filename(name)>` and its path appended to `uploaded`. -/
def stageFiles (env : Env) : List Upload → List PyStr → PyM (List PyStr)
  | [], uploaded => pure uploaded
  | file :: files, uploaded =>
    if !file.filename.isEmpty && allowedFile file.filename then do
      let path := joinPath env.uploadFolder
        (env.uuid4 uploaded.length ++ PyStr.ofString "_" ++ env.secureFilename file.filename)
      saveFile env path
      stageFiles env files (uploaded ++ [path])
    else stageFiles env files uploaded

/-- `os.unlink(path)`. -/
def osUnlink (env : Env) (path : PyStr) : PyM Unit :=
  match env.unlink path with
  | none => modify fun w => { w with uploads := fun p => p != path && w.uploads p }
  | some e => throw e

/-- The cleanup loop: `os.unlink` of each staged path in turn, under `except OSError: pass`. -/
def unlinkAll (env : Env) : List PyStr → PyM Unit
  | [] => pure ()
  | path :: paths => do
    tryCatch (osUnlink env path) fun e => if e.isOSError then pure () else throw e
    unlinkAll env paths

/-- `json.loads(...)` under `except json.JSONDecodeError`: the value, or `none` where the view
answers 400; any other exception goes on. -/
def loadsOr : Except PyExc PyVal → PyM (Option PyVal)
  | .ok v => pure (some v)
  | .error (.jsonDecodeError _) => pure none
  | .error e => throw e

/-- The `data` of a submitted fax: `job_id`, `group_id` and `total_pages` of the result. -/
def submittedData : SendResult → PyVal
  | .submitted _ jobId groupId totalPages _ =>
    .dict [("job_id", .str jobId), ("group_id", .str groupId), ("total_pages", .int totalPages)]
  -- `result['success']` is false for the refusal, so its `data` is never built
  | .refused => .null

/-- The body of `send_fax`'s session once logged in: the wrapper's `send_fax`, the cleanup
loop, and the answer. -/
def submitAndUnlink (env : Env) (uploaded : List PyStr) (destinations options : PyVal) : PyM Response := do
  let result ← PyFaxAPI.sendFax env.oracle uploaded destinations options
  unlinkAll env uploaded
  if result.success then
    return createApiResponse true (submittedData result) "Fax submitted successfully" 200
  else
    return createApiResponse false .null result.error 400

/-- `send_fax`. -/
def sendFax (env : Env) (req : SendRequest) : PyM Response := catchAll .null do
  if req.tooLarge then throw .requestEntityTooLarge
  if req.files.isEmpty then return createApiResponse false .null "No files provided" 400
  if req.files.all (·.filename.isEmpty) then return createApiResponse false .null "No files selected" 400
  let some destinations ← loadsOr req.destinations
    | return createApiResponse false .null "Invalid destinations format" 400
  if !destinations.truthy then return createApiResponse false .null "No destinations specified" 400
  let some options ← loadsOr req.options
    | return createApiResponse false .null "Invalid options format" 400
  let uploaded ← stageFiles env req.files []
  if uploaded.isEmpty then return createApiResponse false .null "No valid files uploaded" 400
  openSession env (submitAndUnlink env uploaded destinations options)

/-! ## `GET /api/fax/status` and `GET /api/fax/job/<job_id>` -/

/-- `queue_mapping`. -/
def queueMapping : List (PyStr × QueueType) :=
  [("send", .sendQueue), ("done", .doneQueue), ("recv", .recvQueue), ("archive", .archiveQueue),
    ("document", .documentQueue), ("server", .serverStatus)]

/-- A job's dict as the views return it. -/
def JobRecord.toPyVal (r : JobRecord) : PyVal := .dict r.toDict

/-- `get_fax_status`, `queue` being the query parameter. -/
def getFaxStatus (env : Env) (queue : Option PyStr) : PyM Response := catchAll .null do
  let queueParam := lower (queue.getD "send")
  let some queueType := queueMapping.lookup queueParam
    | return createApiResponse false .null "Invalid queue type" 400
  openSession env do
    let jobs ← PyFaxAPI.getJobStatus env.oracle queueType
    return createApiResponse true
      (.dict [("queue", .str queueParam), ("jobs", .list (jobs.map JobRecord.toPyVal)),
        ("count", .int jobs.length)])
      (PyStr.ofString ("Retrieved " ++ toString jobs.length ++ " jobs from ") ++ queueParam ++
        PyStr.ofString " queue") 200

/-- The queues `get_job_info` searches, in its order: three of the six, although the comment
above the loop says it searches all queues. -/
def searchedQueues : List QueueType := [.sendQueue, .doneQueue, .archiveQueue]

/-- The search loop of `get_job_info`: `job_info` is `None` until a job with that id turns
up, then that job's dict with `queue` set to the queue's name in lower case; the inner loop
stops at that job, the outer one once `job_info` is truthy. -/
def findJob (env : Env) (jobId : PyStr) (queues : List QueueType) : PyM PyVal := do
  let mut jobInfo : PyVal := .null
  for queueType in queues do
    let jobs ← PyFaxAPI.getJobStatus env.oracle queueType
    for job in jobs do
      if job.jobId == jobId then
        jobInfo := .dict (job.toDict ++ [((PyStr.ofString "queue"), PyVal.str (lower queueType.name))])
        break
    if jobInfo.truthy then break
  return jobInfo

/-- `get_job_info(job_id)`. -/
def getJobInfo (env : Env) (jobId : PyStr) : PyM Response := catchAll .null <| openSession env do
  let jobInfo ← findJob env jobId searchedQueues
  if jobInfo.truthy then return createApiResponse true jobInfo "Job found" 200
  else return createApiResponse false .null "Job not found" 404

/-! ## `POST /api/fax/job/<job_id>/<op>` -/

/-- The four control views, which differ in the method they call and their success message. -/
def controlJob (env : Env) (op : ControlOp) (done : String) (jobId : PyStr) : PyM Response :=
  catchAll .null <| openSession env do
    let (success, error) ← PyFaxAPI.jobControl env.oracle op jobId
    if success then return createApiResponse true (.dict [("job_id", .str jobId)]) done 200
    else return createApiResponse false .null error 400

/-- `kill_job(job_id)`. -/
def killJob (env : Env) : PyStr → PyM Response := controlJob env .kill "Job killed successfully"

/-- `suspend_job(job_id)`. -/
def suspendJob (env : Env) : PyStr → PyM Response := controlJob env .suspend "Job suspended successfully"

/-- `resume_job(job_id)`. -/
def resumeJob (env : Env) : PyStr → PyM Response := controlJob env .resume "Job resumed successfully"

/-- `wait_for_job(job_id)`. -/
def waitForJob (env : Env) : PyStr → PyM Response := controlJob env .wait "Job completed successfully"

/-! ## The application -/

/-- A request to one of the routes. -/
inductive Request
  | health
  | sendFax (r : SendRequest)
  | status (queue : Option PyStr)
  | jobInfo (jobId : PyStr)
  | control (op : ControlOp) (jobId : PyStr)

/-- The view a request's route maps to. -/
def view (env : Env) : Request → PyM Response
  | .health => healthCheck env
  | .sendFax r => sendFax env r
  | .status queue => getFaxStatus env queue
  | .jobInfo jobId => getJobInfo env jobId
  | .control .kill jobId => killJob env jobId
  | .control .suspend jobId => suspendJob env jobId
  | .control .resume jobId => resumeJob env jobId
  | .control .wait jobId => waitForJob env jobId

/-- `too_large`, the handler of a 413 that leaves a view. -/
def tooLarge : Response := createApiResponse false .null "File too large" 413

/-- Flask's dispatch: the view, and `too_large` for a `RequestEntityTooLarge` it lets out. -/
def handle (env : Env) (r : Request) : PyM Response :=
  tryCatch (view env r) fun
    | .requestEntityTooLarge => pure tooLarge
    | e => throw e

end HylaFax.RestApi
