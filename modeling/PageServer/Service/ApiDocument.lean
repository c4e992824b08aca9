import PageServer.Value.Json
/-! The document that describes the service's interface. Pages are no part of it. -/
namespace PageServer.ApiDocument

def healthDescription : String :=
  "Returns the health status of the service and whether each page view can be resolved to a template."

def reportDescription : String :=
  "What:  Health check response showing service and view availability.\n" ++
    "Who:   Returned by GET /health for monitoring and load balancer probes."

def member (extra : Entries) (kind title description : String) : Value :=
  .dict (extra ++ [("type", .text kind), ("title", .text title),
    ("description", .text description)])

def reportSchema : Value :=
  .dict
    [("properties", .dict
      [("status", member [] "string" "Status" "Overall service status: healthy, degraded"),
       ("version", member [] "string" "Version" "Application version"),
       ("views", member [("additionalProperties", .dict [("type", .text "string")])] "object"
         "Views"
         "Per-view template status: available, missing"),
       ("uptime_seconds", member [] "number" "Uptime Seconds" "Seconds since service started")]),
     ("type", .text "object"),
     ("required", .list [.text "status", .text "version", .text "views", .text "uptime_seconds"]),
     ("title", .text "HealthResponse"),
     ("description", .text reportDescription)]

def healthOperation : Value :=
  .dict
    [("tags", .list [.text "Health"]),
     ("summary", .text "Service health check"),
     ("description", .text healthDescription),
     ("operationId", .text "health_check_health_get"),
     ("responses", .dict
       [("200", .dict
         [("description", .text "Successful Response"),
          ("content", .dict
            [("application/json", .dict
              [("schema", .dict
                [("$ref", .text "#/components/schemas/HealthResponse")])])])])])]

/-- The whole document. -/
def document (version : String) : Value :=
  .dict
    [("openapi", .text "3.1.0"),
     ("info", .dict
       [("title", .text "pagedemo"),
        ("description", .text "Serves the index and login pages from a fixed routing table."),
        ("version", .text version)]),
     ("paths", .dict [("/health", .dict [("get", healthOperation)])]),
     ("components", .dict [("schemas", .dict [("HealthResponse", reportSchema)])])]

end PageServer.ApiDocument
