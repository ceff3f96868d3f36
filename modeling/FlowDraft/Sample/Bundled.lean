import FlowDraft.Sample.Load

/-!
# `FlowDraft.Sample.Bundled`: the samples that come with the library

Five reference workflows. They fill the catalogue of prompts, and they are what the collection is
seeded with when no other samples are given.
-/

set_option autoImplicit false

namespace FlowDraft.Sample.Bundled

/-- AI Daily Digest Agent. -/
def dailyDigestAgent : Json :=
  .obj
    [("id", .str "daily-digest-agent"),
     ("title", .str "AI Daily Digest Agent"),
     ("description",
       .str ("Aggregates RSS articles and newsletters into a single AI-authored morning digest " ++
             "and sends it to Slack.")),
     ("problem",
       .str ("Knowledge workers spend too much time scanning sources each morning; this agent " ++
             "compiles the highlights automatically.")),
     ("tags", .arr [.str "ai", .str "slack", .str "digest", .str "rss", .str "automation"]),
     ("metadata",
       .obj
         [("complexity", .str "beginner"),
          ("integrations", .arr [.str "RSS", .str "OpenAI", .str "Slack"])]),
     ("workflow",
       .obj
         [("name", .str "AI Daily Digest Agent"),
          ("nodes",
            .arr
              [.obj
                 [("id", .str "b1f0c6a2-0001-4c55-9d0e-7a1e4d3f0001"),
                  ("name", .str "Every Morning"),
                  ("type", .str "n8n-nodes-base.scheduleTrigger"),
                  ("typeVersion", .float 1.2),
                  ("position", .arr [.int 0, .int 0]),
                  ("parameters",
                    .obj [("rule", .obj [("interval", .arr [.obj [("triggerAtHour", .int 7)]])])])],
               .obj
                 [("id", .str "b1f0c6a2-0002-4c55-9d0e-7a1e4d3f0002"),
                  ("name", .str "Read RSS"),
                  ("type", .str "n8n-nodes-base.rssFeedRead"),
                  ("typeVersion", .float 1.1),
                  ("position", .arr [.int 220, .int 0]),
                  ("parameters", .obj [("url", .str "https://news.ycombinator.com/rss")])],
               .obj
                 [("id", .str "b1f0c6a2-0003-4c55-9d0e-7a1e4d3f0003"),
                  ("name", .str "Summarize"),
                  ("type", .str "@n8n/n8n-nodes-langchain.openAi"),
                  ("typeVersion", .float 1.8),
                  ("position", .arr [.int 440, .int 0]),
                  ("parameters",
                    .obj
                      [("modelId",
                         .obj
                           [("__rl", .bool true),
                            ("value", .str "gpt-4o-mini"),
                            ("mode", .str "list")]),
                       ("messages",
                         .obj
                           [("values",
                              .arr
                                [.obj
                                   [("content",
                                      .str ("Write a short digest of these articles: \x7b\x7b " ++
                                            "$json.title \x7d\x7d"))]])])])],
               .obj
                 [("id", .str "b1f0c6a2-0004-4c55-9d0e-7a1e4d3f0004"),
                  ("name", .str "Post to Slack"),
                  ("type", .str "n8n-nodes-base.slack"),
                  ("typeVersion", .float 2.3),
                  ("position", .arr [.int 660, .int 0]),
                  ("parameters",
                    .obj
                      [("select", .str "channel"),
                       ("channelId", .str "#daily-digest"),
                       ("text", .str "=\x7b\x7b $json.message.content \x7d\x7d")])]]),
          ("connections",
            .obj
              [("Every Morning",
                 .obj
                   [("main",
                      .arr
                        [.arr
                           [.obj
                              [("node", .str "Read RSS"),
                               ("type", .str "main"),
                               ("index", .int 0)]]])]),
               ("Read RSS",
                 .obj
                   [("main",
                      .arr
                        [.arr
                           [.obj
                              [("node", .str "Summarize"),
                               ("type", .str "main"),
                               ("index", .int 0)]]])]),
               ("Summarize",
                 .obj
                   [("main",
                      .arr
                        [.arr
                           [.obj
                              [("node", .str "Post to Slack"),
                               ("type", .str "main"),
                               ("index", .int 0)]]])])])])]

/-- Reddit Startup Idea Miner. -/
def redditStartupIdeas : Json :=
  .obj
    [("id", .str "reddit-startup-ideas"),
     ("title", .str "Reddit Startup Idea Miner"),
     ("description",
       .str ("Monitors Reddit threads, summarizes pain points with an LLM, and writes startup " ++
             "briefs into Notion.")),
     ("problem",
       .str ("Finding validated startup ideas is tedious; this agent mines Reddit discussions " ++
             "and converts them into structured ideas.")),
     ("tags", .arr [.str "reddit", .str "startup", .str "notion", .str "summaries", .str "ai"]),
     ("metadata",
       .obj
         [("complexity", .str "intermediate"),
          ("integrations", .arr [.str "Reddit", .str "OpenAI", .str "Notion"])]),
     ("workflow",
       .obj
         [("name", .str "Reddit Startup Idea Miner"),
          ("nodes",
            .arr
              [.obj
                 [("id", .str "c2a1d7b3-0001-4f1a-8b2c-1d2e3f4a0001"),
                  ("name", .str "Daily Trigger"),
                  ("type", .str "n8n-nodes-base.scheduleTrigger"),
                  ("typeVersion", .float 1.2),
                  ("position", .arr [.int 0, .int 0]),
                  ("parameters",
                    .obj [("rule", .obj [("interval", .arr [.obj [("triggerAtHour", .int 9)]])])])],
               .obj
                 [("id", .str "c2a1d7b3-0002-4f1a-8b2c-1d2e3f4a0002"),
                  ("name", .str "Get Posts"),
                  ("type", .str "n8n-nodes-base.reddit"),
                  ("typeVersion", .int 1),
                  ("position", .arr [.int 220, .int 0]),
                  ("parameters",
                    .obj
                      [("operation", .str "getAll"),
                       ("subreddit", .str "startups"),
                       ("limit", .int 25)])],
               .obj
                 [("id", .str "c2a1d7b3-0003-4f1a-8b2c-1d2e3f4a0003"),
                  ("name", .str "Has Upvotes"),
                  ("type", .str "n8n-nodes-base.if"),
                  ("typeVersion", .int 2),
                  ("position", .arr [.int 440, .int 0]),
                  ("parameters",
                    .obj
                      [("conditions",
                         .obj
                           [("options",
                              .obj
                                [("caseSensitive", .bool true),
                                 ("leftValue", .str ""),
                                 ("typeValidation", .str "strict"),
                                 ("version", .int 2)]),
                            ("combinator", .str "and"),
                            ("conditions",
                              .arr
                                [.obj
                                   [("id", .str "5f0d2c4e-1b7a-4c3e-9a10-2f6b8d9e0a11"),
                                    ("leftValue", .str "=\x7b\x7b $json.ups > 20 \x7d\x7d"),
                                    ("rightValue", .str ""),
                                    ("operator",
                                      .obj
                                        [("type", .str "boolean"),
                                         ("operation", .str "true"),
                                         ("singleValue", .bool true)])]])])])],
               .obj
                 [("id", .str "c2a1d7b3-0004-4f1a-8b2c-1d2e3f4a0004"),
                  ("name", .str "Summarize Pain Points"),
                  ("type", .str "@n8n/n8n-nodes-langchain.openAi"),
                  ("typeVersion", .float 1.8),
                  ("position", .arr [.int 660, .int (-100)]),
                  ("parameters",
                    .obj
                      [("modelId",
                         .obj
                           [("__rl", .bool true),
                            ("value", .str "gpt-4o-mini"),
                            ("mode", .str "list")]),
                       ("messages",
                         .obj
                           [("values",
                              .arr
                                [.obj
                                   [("content",
                                      .str ("Summarize the pain point and pitch a startup " ++
                                            "idea: \x7b\x7b $json.selftext \x7d\x7d"))]])])])],
               .obj
                 [("id", .str "c2a1d7b3-0005-4f1a-8b2c-1d2e3f4a0005"),
                  ("name", .str "Create Notion Page"),
                  ("type", .str "n8n-nodes-base.notion"),
                  ("typeVersion", .float 2.2),
                  ("position", .arr [.int 880, .int (-100)]),
                  ("parameters",
                    .obj
                      [("resource", .str "databasePage"),
                       ("databaseId", .str "startup-ideas"),
                       ("title", .str "=\x7b\x7b $json.message.content \x7d\x7d")])]]),
          ("connections",
            .obj
              [("Daily Trigger",
                 .obj
                   [("main",
                      .arr
                        [.arr
                           [.obj
                              [("node", .str "Get Posts"),
                               ("type", .str "main"),
                               ("index", .int 0)]]])]),
               ("Get Posts",
                 .obj
                   [("main",
                      .arr
                        [.arr
                           [.obj
                              [("node", .str "Has Upvotes"),
                               ("type", .str "main"),
                               ("index", .int 0)]]])]),
               ("Has Upvotes",
                 .obj
                   [("main",
                      .arr
                        [.arr
                           [.obj
                              [("node", .str "Summarize Pain Points"),
                               ("type", .str "main"),
                               ("index", .int 0)]],
                         .arr []])]),
               ("Summarize Pain Points",
                 .obj
                   [("main",
                      .arr
                        [.arr
                           [.obj
                              [("node", .str "Create Notion Page"),
                               ("type", .str "main"),
                               ("index", .int 0)]]])])])])]

/-- LinkedIn + Job Board Lead Generation. -/
def jobBoardLinkedinLeadgen : Json :=
  .obj
    [("id", .str "job-board-linkedin-leadgen"),
     ("title", .str "LinkedIn + Job Board Lead Generation"),
     ("description",
       .str ("Scrapes fresh job posts, enriches contacts with an LLM, and populates Airtable " ++
             "for outreach sequences.")),
     ("problem",
       .str ("Manual lead research is slow; this workflow automates sourcing and enrichment " ++
             "for sales and recruiting teams.")),
     ("tags",
       .arr [.str "leadgen", .str "linkedin", .str "research", .str "airtable", .str "sales"]),
     ("metadata",
       .obj
         [("complexity", .str "intermediate"),
          ("integrations", .arr [.str "HTTP Request", .str "Airtable"])]),
     ("workflow",
       .obj
         [("name", .str "LinkedIn + Job Board Lead Generation"),
          ("nodes",
            .arr
              [.obj
                 [("id", .str "d3b2e8c4-0001-4a2b-9c3d-2e3f4a5b0001"),
                  ("name", .str "Start"),
                  ("type", .str "n8n-nodes-base.manualTrigger"),
                  ("typeVersion", .int 1),
                  ("position", .arr [.int 0, .int 0]),
                  ("parameters", .obj [])],
               .obj
                 [("id", .str "d3b2e8c4-0002-4a2b-9c3d-2e3f4a5b0002"),
                  ("name", .str "Fetch Job Posts"),
                  ("type", .str "n8n-nodes-base.httpRequest"),
                  ("typeVersion", .float 4.2),
                  ("position", .arr [.int 220, .int 0]),
                  ("parameters",
                    .obj [("url", .str "https://example.com/jobs.json"), ("options", .obj [])])],
               .obj
                 [("id", .str "d3b2e8c4-0003-4a2b-9c3d-2e3f4a5b0003"),
                  ("name", .str "Save Lead"),
                  ("type", .str "n8n-nodes-base.airtable"),
                  ("typeVersion", .float 2.1),
                  ("position", .arr [.int 440, .int 0]),
                  ("parameters",
                    .obj
                      [("operation", .str "create"),
                       ("base", .str "appLeads"),
                       ("table", .str "Leads")])]]),
          ("connections",
            .obj
              [("Start",
                 .obj
                   [("main",
                      .arr
                        [.arr
                           [.obj
                              [("node", .str "Fetch Job Posts"),
                               ("type", .str "main"),
                               ("index", .int 0)]]])]),
               ("Fetch Job Posts",
                 .obj
                   [("main",
                      .arr
                        [.arr
                           [.obj
                              [("node", .str "Save Lead"),
                               ("type", .str "main"),
                               ("index", .int 0)]]])])])])]

/-- LinkedIn Content with Human Approval. -/
def linkedinHitlWriter : Json :=
  .obj
    [("id", .str "linkedin-hitl-writer"),
     ("title", .str "LinkedIn Content with Human Approval"),
     ("description",
       .str ("Ingests industry news, drafts LinkedIn posts with an LLM, and routes them " ++
             "through a manual approval branch before publishing.")),
     ("problem",
       .str ("Marketing teams want AI-generated posts but insist on a human-in-the-loop " ++
             "signoff to keep messaging on brand.")),
     ("tags", .arr [.str "linkedin", .str "content", .str "approval", .str "marketing"]),
     ("metadata",
       .obj
         [("complexity", .str "advanced"),
          ("integrations", .arr [.str "OpenAI", .str "Gmail", .str "LinkedIn"])]),
     ("workflow",
       .obj
         [("name", .str "LinkedIn Content with Human Approval"),
          ("nodes",
            .arr
              [.obj
                 [("id", .str "e4c3f9d5-0001-4b3c-8d4e-3f4a5b6c0001"),
                  ("name", .str "Weekly Trigger"),
                  ("type", .str "n8n-nodes-base.scheduleTrigger"),
                  ("typeVersion", .float 1.2),
                  ("position", .arr [.int 0, .int 0]),
                  ("parameters",
                    .obj [("rule", .obj [("interval", .arr [.obj [("field", .str "weeks")]])])])],
               .obj
                 [("id", .str "e4c3f9d5-0002-4b3c-8d4e-3f4a5b6c0002"),
                  ("name", .str "Draft Post"),
                  ("type", .str "@n8n/n8n-nodes-langchain.openAi"),
                  ("typeVersion", .float 1.8),
                  ("position", .arr [.int 220, .int 0]),
                  ("parameters",
                    .obj
                      [("modelId",
                         .obj
                           [("__rl", .bool true),
                            ("value", .str "gpt-4o-mini"),
                            ("mode", .str "list")]),
                       ("messages",
                         .obj
                           [("values",
                              .arr
                                [.obj
                                   [("content",
                                      .str ("Draft a LinkedIn post about this week's " ++
                                            "industry news."))]])])])],
               .obj
                 [("id", .str "e4c3f9d5-0003-4b3c-8d4e-3f4a5b6c0003"),
                  ("name", .str "Ask for Approval"),
                  ("type", .str "n8n-nodes-base.gmail"),
                  ("typeVersion", .float 2.1),
                  ("position", .arr [.int 440, .int 0]),
                  ("parameters",
                    .obj
                      [("operation", .str "sendAndWait"),
                       ("sendTo", .str "editor@example.com"),
                       ("subject", .str "Approve LinkedIn draft")])],
               .obj
                 [("id", .str "e4c3f9d5-0004-4b3c-8d4e-3f4a5b6c0004"),
                  ("name", .str "Publish"),
                  ("type", .str "n8n-nodes-base.linkedIn"),
                  ("typeVersion", .int 1),
                  ("position", .arr [.int 660, .int 0]),
                  ("parameters",
                    .obj
                      [("text",
                         .str "=\x7b\x7b $('Draft Post').item.json.message.content \x7d\x7d")])]]),
          ("connections",
            .obj
              [("Weekly Trigger",
                 .obj
                   [("main",
                      .arr
                        [.arr
                           [.obj
                              [("node", .str "Draft Post"),
                               ("type", .str "main"),
                               ("index", .int 0)]]])]),
               ("Draft Post",
                 .obj
                   [("main",
                      .arr
                        [.arr
                           [.obj
                              [("node", .str "Ask for Approval"),
                               ("type", .str "main"),
                               ("index", .int 0)]]])]),
               ("Ask for Approval",
                 .obj
                   [("main",
                      .arr
                        [.arr
                           [.obj
                              [("node", .str "Publish"),
                               ("type", .str "main"),
                               ("index", .int 0)]]])])])])]

/-- Shopify Order Alerts. -/
def shopifyOrderAlerts : Json :=
  .obj
    [("id", .str "shopify-order-alerts"),
     ("title", .str "Shopify Order Alerts"),
     ("description",
       .str ("Listens for new Shopify orders through a webhook and alerts the fulfilment team " ++
             "on Telegram when an order is high value.")),
     ("problem",
       .str ("Small merchants miss large orders during busy days; this workflow pings the team " ++
             "instantly.")),
     ("tags", .arr [.str "shopify", .str "telegram", .str "orders", .str "commerce"]),
     ("workflow",
       .obj
         [("name", .str "Shopify Order Alerts"),
          ("nodes",
            .arr
              [.obj
                 [("id", .str "f5d4a0e6-0001-4c4d-9e5f-4a5b6c7d0001"),
                  ("name", .str "Order Webhook"),
                  ("type", .str "n8n-nodes-base.webhook"),
                  ("typeVersion", .int 2),
                  ("position", .arr [.int 0, .int 0]),
                  ("parameters",
                    .obj [("httpMethod", .str "POST"), ("path", .str "shopify-orders")])],
               .obj
                 [("id", .str "f5d4a0e6-0002-4c4d-9e5f-4a5b6c7d0002"),
                  ("name", .str "Telegram Alert"),
                  ("type", .str "n8n-nodes-base.telegram"),
                  ("typeVersion", .float 1.2),
                  ("position", .arr [.int 220, .int 0]),
                  ("parameters",
                    .obj
                      [("chatId", .str "fulfilment"),
                       ("text",
                         .str ("=New order \x7b\x7b $json.body.name \x7d\x7d for \x7b\x7b " ++
                               "$json.body.total_price \x7d\x7d"))])]]),
          ("connections",
            .obj
              [("Order Webhook",
                 .obj
                   [("main",
                      .arr
                        [.arr
                           [.obj
                              [("node", .str "Telegram Alert"),
                               ("type", .str "main"),
                               ("index", .int 0)]]])])])])]

/-- The document that holds them. -/
def document : Json :=
  .arr
    [dailyDigestAgent, redditStartupIdeas, jobBoardLinkedinLeadgen, linkedinHitlWriter,
     shopifyOrderAlerts]

end FlowDraft.Sample.Bundled

namespace FlowDraft.Sample

/-- How the bundled samples are called in reports. -/
def bundledSource : String := "bundled sample_workflows.json"

/-- The bundled samples. -/
def bundled : List Sample :=
  match ofDocument bundledSource Bundled.document with
  | .ok samples => samples
  | .error _ => []

end FlowDraft.Sample
