import TypedRecords.Answer.Model

/-!
# The answers of the operations

One model for each kind of answer. All but the summary of a table tell that the operation
succeeded and may carry a message.
-/

namespace TypedRecords.Answer

/-- The fields that every answer begins with. -/
def commonFields : List ModelField :=
  [{ name := "success", sentAs := "success", shape := .flag, default := some (.bool true) },
    { name := "message", sentAs := "message", shape := .optionalText, default := some .null }]

/-- The field for the class that an answer is about, which must be given and be a text. -/
def classNameField : ModelField :=
  { name := "class_name", sentAs := "className", shape := .text }

/-- The field for the id of the record that an answer is about. -/
def objectIdField : ModelField :=
  { name := "object_id", sentAs := "objectId", shape := .text }

/-- The field for a number of items, 0 when it is not given. -/
def countField : ModelField :=
  { name := "count", sentAs := "count", shape := .count, default := some (.int 0) }

/-- The field for the moment of the answer. -/
def timestampField : ModelField :=
  { name := "timestamp", sentAs := "timestamp", shape := .text }

/-- A field that holds an array, by default the empty one, of values of a shape. -/
def listField (name sentAs : String) (item : Shape) : ModelField :=
  { name, sentAs, shape := .listOf item, default := some (.array []) }

/-- A field that holds an object, by default the empty one. -/
def objectField (name : String) (shape : Shape) : ModelField :=
  { name, sentAs := name, shape, default := some (.object []) }

/-- The answer that tells nothing but its success. -/
def plain : Model :=
  { name := "Envelope", fields := commonFields }

/-- The answer to the creation of a table, with the id of its seed record if one was written. -/
def tableCreated : Model :=
  { name := "CreateTableEnvelope"
    fields := commonFields ++ [classNameField,
      { name := "seed_object_id", sentAs := "seedObjectId", shape := .optionalText
        default := some .null }] }

/-- What the list of tables tells of one of them: its class and the names of its fields. -/
def tableSummary : Model :=
  { name := "TableSummary", fields := [classNameField, listField "fields" "fields" .text] }

/-- The answer to the listing of the tables, with their summaries and their number. -/
def tableList : Model :=
  { name := "ListTablesEnvelope"
    fields := commonFields ++ [listField "tables" "tables" tableSummary.item, countField] }

/-- The answer to a question for a schema, which maps each field to the texts of its descriptor. -/
def tableSchema : Model :=
  { name := "TableSchemaEnvelope"
    fields := commonFields ++ [classNameField, objectField "fields" (.tableOf (.tableOf .text))] }

/-- The answer to the deletion of a table. -/
def tableDeleted : Model :=
  { name := "DeleteTableEnvelope", fields := commonFields }

/-- The answer to the creation or the update of a record, with the record as it is now. -/
def recordWritten : Model :=
  { name := "RecordEnvelope"
    fields := commonFields ++ [objectIdField, objectField "data" .object] }

/-- The answer to a reading of records, with their class, their number on this page and the
records. -/
def recordPage : Model :=
  { name := "ReadTableEnvelope"
    fields := commonFields ++ [classNameField, countField, listField "data" "data" .object] }

/-- The answer to the deletion of a record, with the id that it had. -/
def recordDeleted : Model :=
  { name := "DeleteRecordEnvelope", fields := commonFields ++ [objectIdField] }

/-- The answer to the creation of a batch, with the ids of its records in the order of the batch. -/
def batchCreated : Model :=
  { name := "BatchCreateEnvelope"
    fields := commonFields ++ [countField, listField "object_ids" "objectIds" .text] }

/-- The answer to a count of records, with their class and their number. -/
def recordCount : Model :=
  { name := "CountEnvelope", fields := commonFields ++ [classNameField, countField] }

/-- The answer that describes the service: its version, the time, and its features as flags. -/
def serviceInfo : Model :=
  { name := "ServerInfoEnvelope"
    fields := commonFields ++
      [{ name := "server_version", sentAs := "serverVersion", shape := .text }, timestampField,
        objectField "features" (.tableOf .flag)] }

/-- The answer to a check of the health of the service, which is healthy unless it says
otherwise. -/
def health : Model :=
  { name := "HealthEnvelope"
    fields := commonFields ++
      [{ name := "status", sentAs := "status", shape := .text, default := some (.text "healthy") },
        timestampField] }

/-- All models that answers are built from. -/
def models : List Model :=
  [plain, tableCreated, tableSummary, tableList, tableSchema, tableDeleted, recordWritten,
    recordPage, recordDeleted, batchCreated, recordCount, serviceInfo, health]

/-- The model with the given name, if there is one. -/
def model? (name : String) : Option Model :=
  models.find? (·.name == name)

/-- Build the answer about the service. The features may come with names that are no texts;
those are issues like any other. -/
def buildServiceInfo (version : String) (timestamp : Json) (features : Mapping) :
    Except HostError Json :=
  match Checked.under "features" (checkFlags features) with
  | .error issues => .error (serviceInfo.error issues)
  | .ok flags =>
      serviceInfo.build [("server_version", .text version), ("timestamp", timestamp),
        ("features", .object (flags.map fun (name, flag) => (name, .bool flag)))]

end TypedRecords.Answer
